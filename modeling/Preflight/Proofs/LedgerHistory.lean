import Mathlib.Data.List.Basic
import Preflight.ControlPlane.Ledger
import Preflight.Proofs.TextMap

/-!
# The history of a ledger

A ledger changes by `Ledger.insert`, always with the release that `Ledger.newRelease` makes, and
by `Ledger.setStatus`, only of a release that is not yet terminal.  `Ledger.Evolves` is the
relation of such changes, one after the other.

Two things are carried along it.

* `Ledger.Regular` holds of every ledger that evolves from an empty one: versions count the
  insertions, identifiers come from versions, and the index lists for each application the
  identifiers of its releases.  It needs neither distinct identifiers nor a bound on the counter,
  so that it can be carried through a run before either is known.
* `Release.entry`, a release without its status, stays at its place in the list and under its
  identifier.

With an injective `newId` and fewer than `2 ^ 64 - 1` releases (`Ledger.HasRoom`) a regular ledger
answers as one expects: `releasesFor_eq`, `latest?_eq`.
-/

namespace Preflight

/-- A release without its status: what is fixed when it is inserted. -/
def Release.entry (r : Release) : Release := { r with status := .created }

theorem Release.entry_eq_iff {r r' : Release} :
    r.entry = r'.entry ↔ r.id = r'.id ∧ r.version = r'.version ∧ r.appName = r'.appName ∧
      r.strategy = r'.strategy ∧ r.image = r'.image := by
  simp [Release.entry]

namespace Ledger

/-! ## Evolution -/

/-- One ledger comes from another by insertions and by updates of releases that are not
terminal. -/
inductive Evolves : Ledger → Ledger → Prop where
  | refl (l : Ledger) : Evolves l l
  | insert {l m : Ledger} (app : String) (strategy : RolloutStrategy) (image : String)
      (status : ReleaseStatus) (h : Evolves l m) :
      Evolves l (m.insert (m.newRelease app strategy image status))
  | setStatus {l m : Ledger} {r : Release} (id : String) (status : ReleaseStatus)
      (hfound : m.release? id = some r) (hopen : r.status.isTerminal = false)
      (h : Evolves l m) : Evolves l (m.setStatus id status)

theorem Evolves.trans {l m n : Ledger} (hlm : Evolves l m) (hmn : Evolves m n) :
    Evolves l n := by
  induction hmn with
  | refl => exact hlm
  | insert app strategy image status _ ih => exact .insert app strategy image status ih
  | setStatus id status hfound hopen _ ih => exact .setStatus id status hfound hopen ih

theorem Evolves.newId_eq {l m : Ledger} (h : Evolves l m) : m.newId = l.newId := by
  induction h with
  | refl => rfl
  | insert _ _ _ _ _ ih => exact ih
  | setStatus _ _ _ _ _ ih => exact ih

/-! ## What is fixed at insertion -/

theorem entry_ite_status (r : Release) (id : String) (status : ReleaseStatus) :
    (if r.id == id then { r with status } else r).entry = r.entry := by
  split <;> rfl

theorem map_entry_setStatus (l : Ledger) (id : String) (status : ReleaseStatus) :
    (l.setStatus id status).releases.map Release.entry = l.releases.map Release.entry := by
  simp only [setStatus, List.map_map]
  apply List.map_congr_left
  intro r _
  exact entry_ite_status r id status

/-- The releases of a ledger are, status apart, the first releases of every later one. -/
theorem Evolves.entries_kept {l m : Ledger} (h : Evolves l m) :
    l.releases.map Release.entry <+: m.releases.map Release.entry := by
  induction h with
  | refl => exact List.prefix_rfl
  | @insert m app strategy image status _ ih =>
    have hstep : m.releases.map Release.entry <+:
        (m.insert (m.newRelease app strategy image status)).releases.map Release.entry := by
      simp [Ledger.insert]
    exact ih.trans hstep
  | setStatus id status _ _ _ ih =>
    rw [map_entry_setStatus]
    exact ih

theorem Evolves.length_le {l m : Ledger} (h : Evolves l m) :
    l.releases.length ≤ m.releases.length := by
  simpa using h.entries_kept.length_le

/-- Looking a release up by its identifier gives, status apart, the same release ever after. -/
theorem release?_of_entries_kept {l m : Ledger} {id : String} {r : Release}
    (hpre : l.releases.map Release.entry <+: m.releases.map Release.entry)
    (hfound : l.release? id = some r) :
    ∃ r', m.release? id = some r' ∧ r'.entry = r.entry := by
  have hentry : ∀ k : Ledger, (k.releases.map Release.entry).find? (·.id == id) =
      (k.release? id).map Release.entry := by
    intro k
    rw [List.find?_map]
    rfl
  obtain ⟨rest, hrest⟩ := hpre
  have hm := hentry m
  rw [← hrest, List.find?_append, hentry l, hfound] at hm
  obtain ⟨r', hr', heq⟩ := Option.map_eq_some_iff.1 hm.symm
  exact ⟨r', hr', heq⟩

/-! ## Regular ledgers -/

/-- The releases of an application in the order of insertion. -/
def insertedFor (l : Ledger) (app : String) : List Release :=
  l.releases.filter (·.appName == app)

/-- The counter, the versions, the identifiers and the index agree with the list of releases. -/
structure Regular (l : Ledger) : Prop where
  counter : l.nextVersion = UInt64.ofNat (l.releases.length + 1)
  version : ∀ {i : Nat} {r : Release}, l.releases[i]? = some r → r.version = UInt64.ofNat (i + 1)
  id : ∀ r ∈ l.releases, r.id = l.newId r.version
  index : ∀ app, l.byApp.listAt app = (l.insertedFor app).map (·.id)

theorem regular_empty (newId : UInt64 → String) : (empty newId).Regular where
  counter := rfl
  version h := by simp [empty] at h
  id r hr := by simp [empty] at hr
  index app := rfl

theorem Regular.insert {l : Ledger} (h : l.Regular) (app : String) (strategy : RolloutStrategy)
    (image : String) (status : ReleaseStatus) :
    (l.insert (l.newRelease app strategy image status)).Regular where
  counter := by
    simp only [Ledger.insert, List.length_append, List.length_cons, List.length_nil, h.counter]
    rw [← UInt64.ofNat_one, ← UInt64.ofNat_add]
  version {i r} hr := by
    simp only [Ledger.insert] at hr
    rcases Nat.lt_trichotomy i l.releases.length with hlt | heq | hgt
    · rw [List.getElem?_append_left hlt] at hr
      exact h.version hr
    · subst heq
      simp at hr
      subst hr
      exact h.counter
    · rw [List.getElem?_eq_none (by simp; omega)] at hr
      cases hr
  id r hr := by
    rcases List.mem_append.1 hr with hr | hr
    · exact h.id r hr
    · rw [List.mem_singleton.1 hr]
      rfl
  index app' := by
    simp only [Ledger.insert, insertedFor, TextMap.listAt_push, List.filter_append,
      List.map_append]
    by_cases happ : app' = app
    · subst happ
      simp [h.index, newRelease, insertedFor]
    · have hmiss : (app == app') = false := by simpa using Ne.symm happ
      simp [h.index, newRelease, insertedFor, happ, hmiss]

theorem Regular.setStatus {l : Ledger} (h : l.Regular) (id : String) (status : ReleaseStatus) :
    (l.setStatus id status).Regular := by
  -- the four conditions look at nothing but the fixed part of releases
  have hparts := fun r : Release => Release.entry_eq_iff.1 (entry_ite_status r id status)
  have hid := fun r => (hparts r).1
  have hversion := fun r => (hparts r).2.1
  have happ := fun r => (hparts r).2.2.1
  constructor
  · simpa [Ledger.setStatus] using h.counter
  · intro i r hr
    simp only [Ledger.setStatus, List.getElem?_map] at hr
    obtain ⟨r₀, hr₀, rfl⟩ := Option.map_eq_some_iff.1 hr
    rw [hversion, h.version hr₀]
  · intro r hr
    simp only [Ledger.setStatus] at hr ⊢
    obtain ⟨r₀, hr₀, rfl⟩ := List.mem_map.1 hr
    rw [hversion, hid, h.id r₀ hr₀]
  · intro app
    simp only [Ledger.setStatus, insertedFor, List.filter_map, List.map_map]
    have hlabel : ((fun r : Release => r.appName == app) ∘
        fun r => if r.id == id then { r with status } else r) = fun r => r.appName == app := by
      funext r
      simp only [Function.comp_apply, happ]
    rw [h.index, hlabel, insertedFor]
    apply List.map_congr_left
    intro r _
    exact (hid r).symm

/-- Whatever evolves from a regular ledger is regular. -/
theorem Evolves.regular {l m : Ledger} (h : Evolves l m) (hl : l.Regular) : m.Regular := by
  induction h with
  | refl => exact hl
  | insert app strategy image status _ ih => exact ih.insert app strategy image status
  | setStatus id status _ _ _ ih => exact ih.setStatus id status

/-! ## Answers of a regular ledger -/

/-- The counter has not wrapped around and can move once more. -/
def HasRoom (l : Ledger) : Prop := l.releases.length < UInt64.size - 1

theorem HasRoom.of_length_le {l m : Ledger} (room : m.HasRoom)
    (h : l.releases.length ≤ m.releases.length) : l.HasRoom := Nat.lt_of_le_of_lt h room

section Regular

variable {l : Ledger} (h : l.Regular) (room : l.HasRoom)
include h room

theorem Regular.counter_toNat : l.nextVersion.toNat = l.releases.length + 1 := by
  simp only [HasRoom, UInt64.size] at room
  rw [h.counter, UInt64.toNat_ofNat_of_lt' (by simp [UInt64.size]; omega)]

theorem Regular.version_toNat {i : Nat} {r : Release} (hr : l.releases[i]? = some r) :
    r.version.toNat = i + 1 := by
  obtain ⟨hi, _⟩ := List.getElem?_eq_some_iff.1 hr
  simp only [HasRoom, UInt64.size] at room
  rw [h.version hr, UInt64.toNat_ofNat_of_lt' (by simp [UInt64.size]; omega)]

theorem Regular.versions_increasing :
    l.releases.Pairwise fun a b => a.version < b.version := by
  rw [List.pairwise_iff_getElem]
  intro i j hi hj hij
  have hvi := h.version_toNat room (List.getElem?_eq_getElem hi)
  have hvj := h.version_toNat room (List.getElem?_eq_getElem hj)
  rw [UInt64.lt_iff_toNat_lt, hvi, hvj]
  omega

variable (fresh : Function.Injective l.newId)
include fresh

theorem Regular.ids_nodup : (l.releases.map (·.id)).Nodup := by
  rw [List.nodup_iff_pairwise_ne, List.pairwise_map]
  refine (h.versions_increasing room).imp_of_mem ?_
  intro a b ha hb hlt heq
  rw [h.id a ha, h.id b hb] at heq
  rw [fresh heq] at hlt
  exact UInt64.lt_irrefl _ hlt

theorem Regular.release?_of_mem {r : Release} (hr : r ∈ l.releases) :
    l.release? r.id = some r := by
  have hnodup := h.ids_nodup room fresh
  unfold release?
  clear h room fresh
  generalize l.releases = rs at hr hnodup ⊢
  induction rs with
  | nil => cases hr
  | cons head rest ih =>
    rw [List.map_cons, List.nodup_cons] at hnodup
    rcases List.mem_cons.1 hr with rfl | hr
    · simp
    · have hne : head.id ≠ r.id := fun heq => hnodup.1 (heq ▸ List.mem_map_of_mem hr)
      rw [List.find?_cons_of_neg (by simpa using hne)]
      exact ih hr hnodup.2

/-- Going through the index loses no release and brings up no other. -/
theorem Regular.releasesFor_eq (app : String) : l.releasesFor app = l.insertedFor app := by
  rw [releasesFor, h.index, List.filterMap_map]
  have hlook : ∀ r ∈ l.insertedFor app, (l.release? ∘ (·.id)) r = some r := fun r hr =>
    h.release?_of_mem room fresh (List.mem_of_mem_filter hr)
  rw [List.filterMap_congr hlook]
  exact List.filterMap_some

end Regular

theorem listAt_insert (l : Ledger) (r : Release) (app : String) :
    (l.insert r).byApp.listAt app =
      if app = r.appName then l.byApp.listAt app ++ [r.id] else l.byApp.listAt app := by
  rw [Ledger.insert, TextMap.listAt_push]
  split
  · rename_i happ
    rw [happ]
  · rfl

/-- A new release comes after the others of its application. -/
theorem Regular.releasesFor_insert {l : Ledger} (h : l.Regular) {app image : String}
    {strategy : RolloutStrategy} {status : ReleaseStatus}
    (room : (l.insert (l.newRelease app strategy image status)).HasRoom)
    (fresh : Function.Injective l.newId) (app' : String) :
    (l.insert (l.newRelease app strategy image status)).releasesFor app' =
      if app' = app then l.releasesFor app' ++ [l.newRelease app strategy image status]
      else l.releasesFor app' := by
  have hroom : l.HasRoom := room.of_length_le (by simp [Ledger.insert])
  rw [(h.insert app strategy image status).releasesFor_eq room fresh,
    h.releasesFor_eq hroom fresh, insertedFor, insertedFor, Ledger.insert, List.filter_append]
  by_cases happ : app' = app
  · simp [newRelease, happ]
  · simp [newRelease, happ, Ne.symm happ]

/-! ## The latest release -/

/-- Along increasing versions the newest release is the last. -/
theorem foldl_newer_eq_getLast? {rs : List Release} {best : Option Release}
    (hincreasing : rs.Pairwise fun a b => a.version < b.version)
    (hbest : ∀ b ∈ best, ∀ r ∈ rs, b.version < r.version) :
    rs.foldl newer best = rs.getLast?.or best := by
  induction rs generalizing best with
  | nil => rfl
  | cons r rs ih =>
    obtain ⟨hhead, htail⟩ := List.pairwise_cons.1 hincreasing
    have hnewer : newer best r = some r := by
      cases best with
      | none => rfl
      | some b =>
        have hle : b.version ≤ r.version := UInt64.le_of_lt (hbest b rfl r List.mem_cons_self)
        simp [newer, hle]
    rw [List.foldl_cons, hnewer, ih htail (by simpa using hhead), List.getLast?_cons]
    cases rs.getLast? <;> rfl

/-- The greatest version belongs to the release inserted last. -/
theorem Regular.latest?_eq {l : Ledger} (h : l.Regular) (room : l.HasRoom)
    (fresh : Function.Injective l.newId) (app : String) :
    l.latest? app = (l.insertedFor app).getLast? := by
  rw [latest?, h.releasesFor_eq room fresh, insertedFor,
    foldl_newer_eq_getLast? ((h.versions_increasing room).filter _) (by simp), Option.or_none]

end Ledger

end Preflight
