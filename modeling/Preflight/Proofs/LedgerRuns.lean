import Mathlib.Data.List.Nodup
import Preflight.Proofs.Runs

/-!
# The ledger over whole runs

What can be read off the ledger of a plane after any run that starts from an empty plane.  The
three parts of a ledger (the releases, the index by application and the counter) stay in step
through every operation, also one that fails midway; `Ledger.WellKept` says what that gives a
reader.

The proof goes through `Ledger.Regular`, which every evolution keeps.  `WellKept` follows from it
once identifiers are fresh and the counter has not wrapped around.
-/

namespace Preflight

namespace Ledger

/-- What a reader of the ledger relies on. -/
structure WellKept (l : Ledger) : Prop where
  /-- In the order of insertion the versions are 1, 2, 3 and so on, whatever the applications. -/
  versions : l.releases.map (·.version.toNat) = List.range' 1 l.releases.length
  counter : l.nextVersion.toNat = l.releases.length + 1
  /-- A release is listed for its own application, once, and for no other. -/
  listedOnce : ∀ r ∈ l.releases, ∀ app,
    (l.byApp.listAt app).count r.id = if app = r.appName then 1 else 0
  /-- A listed identifier is that of a release of the application. -/
  resolves : ∀ app, ∀ id ∈ l.byApp.listAt app,
    ∃ r ∈ l.releases, l.release? id = some r ∧ r.id = id ∧ r.appName = app
  /-- Nothing is lost on the way through the index. -/
  complete : ∀ app, l.releasesFor app = l.releases.filter (·.appName == app)
  increasing : ∀ app, (l.releasesFor app).Pairwise fun a b => a.version < b.version

section Regular

variable {l : Ledger} (h : l.Regular) (room : l.HasRoom)
include h room

theorem Regular.map_version_eq_range' :
    l.releases.map (·.version.toNat) = List.range' 1 l.releases.length := by
  apply List.ext_getElem
  · simp
  · intro i hi _
    have hlt : i < l.releases.length := by simpa using hi
    have hversion := h.version_toNat room (List.getElem?_eq_getElem hlt)
    simp only [List.getElem_map, List.getElem_range', hversion]
    omega

variable (fresh : Function.Injective l.newId)
include fresh

theorem Regular.count_listAt {r : Release} (hr : r ∈ l.releases) (app : String) :
    (l.byApp.listAt app).count r.id = if app = r.appName then 1 else 0 := by
  rw [h.index]
  by_cases happ : app = r.appName
  · have hsub : ((l.insertedFor app).map (·.id)).Sublist (l.releases.map (·.id)) :=
      List.Sublist.map _ List.filter_sublist
    have hmem : r.id ∈ (l.insertedFor app).map (·.id) :=
      List.mem_map_of_mem (List.mem_filter.2 ⟨hr, by simp [happ]⟩)
    rw [if_pos happ]
    exact List.count_eq_one_of_mem ((h.ids_nodup room fresh).sublist hsub) hmem
  · rw [if_neg happ]
    refine List.count_eq_zero_of_not_mem ?_
    intro hmem
    obtain ⟨r', hr', hid⟩ := List.mem_map.1 hmem
    obtain ⟨hr', happ'⟩ := List.mem_filter.1 hr'
    -- two releases of one identifier are one release
    have hsame : some r' = some r := by
      rw [← h.release?_of_mem room fresh hr', ← h.release?_of_mem room fresh hr, hid]
    obtain rfl := Option.some.inj hsame
    exact happ (by simpa using (beq_iff_eq.1 happ').symm)

theorem Regular.release?_of_mem_listAt {app id : String} (hid : id ∈ l.byApp.listAt app) :
    ∃ r ∈ l.releases, l.release? id = some r ∧ r.id = id ∧ r.appName = app := by
  rw [h.index] at hid
  obtain ⟨r, hr, rfl⟩ := List.mem_map.1 hid
  obtain ⟨hr, happ⟩ := List.mem_filter.1 hr
  exact ⟨r, hr, h.release?_of_mem room fresh hr, rfl, by simpa using happ⟩

theorem Regular.wellKept : l.WellKept where
  versions := h.map_version_eq_range' room
  counter := h.counter_toNat room
  listedOnce _ hr app := h.count_listAt room fresh hr app
  resolves _ _ hid := h.release?_of_mem_listAt room fresh hid
  complete app := h.releasesFor_eq room fresh app
  increasing app := by
    rw [h.releasesFor_eq room fresh]
    exact (h.versions_increasing room).filter _

theorem Regular.latestImage?_eq (app : String) :
    l.latestImage? app =
      ((l.releases.filter (·.appName == app)).getLast?.map (·.image)).filter (· != "") := by
  rw [latestImage?, h.latest?_eq room fresh]
  rfl

end Regular

end Ledger

namespace InMemoryPlane

/-! ## Every run -/

theorem Run.ledger_regular {newId : UInt64 → String} {p : InMemoryPlane}
    (h : Run (.empty newId) p) : p.ledger.Regular :=
  h.ledger_evolves.regular (Ledger.regular_empty newId)

theorem Run.newId_eq {newId : UInt64 → String} {p : InMemoryPlane} (h : Run (.empty newId) p) :
    p.ledger.newId = newId :=
  h.ledger_evolves.newId_eq

/-- A reachable plane has a regular ledger. -/
theorem Reachable.ledger_regular {p : InMemoryPlane} (h : p.Reachable) : p.ledger.Regular := by
  obtain ⟨newId, -, hrun⟩ := h
  exact hrun.ledger_regular

theorem Reachable.newId_injective {p : InMemoryPlane} (h : p.Reachable) :
    Function.Injective p.ledger.newId := by
  obtain ⟨newId, fresh, hrun⟩ := h
  rw [hrun.newId_eq]
  exact fresh

/-- After any run from an empty plane the ledger is well kept and the latest image is that of the
release inserted last for the application; and from any plane on the way, here `p`, to a later
one, `q`, releases keep their place and everything but their status. -/
theorem Run.ledger_wellKept {newId : UInt64 → String} (fresh : Function.Injective newId)
    {p q : InMemoryPlane} (hp : Run (.empty newId) p) (hq : Run p q) (room : q.ledger.HasRoom) :
    q.ledger.WellKept ∧
    (p.ledger.releases.map Release.entry <+: q.ledger.releases.map Release.entry ∧
      ∀ id r, p.ledger.release? id = some r →
        ∃ r', q.ledger.release? id = some r' ∧ r'.id = r.id ∧ r'.version = r.version ∧
          r'.appName = r.appName ∧ r'.strategy = r.strategy ∧ r'.image = r.image) ∧
    (q.failures .latestReleaseImage = none → ∀ app,
      ((ControlPlaneClient.latestReleaseImage app).from q).1 =
        .ok (((q.ledger.releases.filter (·.appName == app)).getLast?.map (·.image)).filter
          (· != ""))) := by
  have hrun := hp.trans hq
  have hregular := hrun.ledger_regular
  have hfresh : Function.Injective q.ledger.newId := by
    rw [hrun.newId_eq]
    exact fresh
  have hkept := hq.ledger_evolves.entries_kept
  refine ⟨hregular.wellKept room hfresh, ⟨hkept, ?_⟩, ?_⟩
  · intro id r hfound
    obtain ⟨r', hr', hentry⟩ := Ledger.release?_of_entries_kept hkept hfound
    exact ⟨r', hr', Release.entry_eq_iff.1 hentry⟩
  · intro hclear app
    rw [from_latestReleaseImage, unlessFailing_of_none hclear,
      hregular.latestImage?_eq room hfresh]

/-- Two releases of one application around one of another. -/
def interleaved : InMemoryPlane :=
  ((InMemoryPlane.empty tallyId).seedRelease "shop" "shop:1").seedRelease "blog" "blog:1"

/-- A third release after them, made while volumes cannot be listed, and given up at once. -/
def interleavedAndFailed : InMemoryPlane :=
  (Call.updateRelease "iii" .failed).after
    ((Call.createRelease ⟨"shop", "machines", "IMMEDIATE", .null, "shop:2"⟩).after
      (interleaved.failOperation .listVolumes (.unavailable "maintenance")))

theorem interleaved_wellKept :
    Run (.empty tallyId) interleaved ∧ Run interleaved interleavedAndFailed ∧
    interleavedAndFailed.ledger.HasRoom ∧ interleavedAndFailed.ledger.WellKept ∧
    interleavedAndFailed.ledger.releases.map (fun r => (r.appName, r.version, r.status)) =
      [("shop", 1, .succeeded), ("blog", 2, .succeeded), ("shop", 3, .failed)] ∧
    interleaved.ledger.releases.map Release.entry <+:
      interleavedAndFailed.ledger.releases.map Release.entry ∧
    ((ControlPlaneClient.latestReleaseImage "shop").from interleavedAndFailed).1 =
      .ok (some "shop:2") := by
  have hp : Run (.empty tallyId) interleaved :=
    .seedRelease "blog" "blog:1" (.seedRelease "shop" "shop:1" (.refl _))
  have hq : Run interleaved interleavedAndFailed :=
    .call _ (.call _ (.failOperation _ _ (.refl _)))
  have room : interleavedAndFailed.ledger.HasRoom := by
    unfold Ledger.HasRoom
    decide +kernel
  obtain ⟨hkept, ⟨hentries, -⟩, hlatest⟩ := Run.ledger_wellKept tallyId_injective hp hq room
  refine ⟨hp, hq, room, hkept, by decide +kernel, hentries, ?_⟩
  rw [hlatest rfl "shop"]
  decide +kernel

end InMemoryPlane

end Preflight
