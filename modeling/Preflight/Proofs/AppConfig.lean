import Preflight.AppConfig
import Preflight.Proofs.Results
import Preflight.Proofs.TextMap

/-!
# The groups of a configuration

The functions of `AppConfig` that speak of groups agree with each other: a group is listed when it
is declared (`mem_groupNames_iff`), and a declared group has a view with the mounts that apply to
it (`flatten_of_mem`).  `AppConfig.mountsOf` names those mounts and `AppConfig.mountSource?` the
volume that new machines of a group mount.

A configuration is valid when it is named and accepts each of its mounts (`validate_ok_iff`); then
no mount is for groups only that there are not (`exists_group_of_validate`).

Texts that may be left out count only when they are not empty (`nonEmpty_eq_some_iff`).
-/

namespace Preflight

open Result

theorem nonEmpty_eq_some_iff {s : Option String} {text : String} :
    nonEmpty s = some text ↔ s = some text ∧ text ≠ "" := by
  simp [nonEmpty, Option.filter_eq_some_iff]

theorem nonEmpty_eq_none_iff {s : Option String} :
    nonEmpty s = none ↔ ∀ text, s = some text → text = "" := by
  simp [nonEmpty, Option.filter_eq_none_iff]

theorem isSome_nonEmpty_iff {s : Option String} :
    (nonEmpty s).isSome = true ↔ ∃ text, s = some text ∧ text ≠ "" := by
  simp only [Option.isSome_iff_exists, nonEmpty_eq_some_iff]

namespace AppConfig

variable (c : AppConfig)

theorem mem_groupNames_iff (group : String) : group ∈ c.groupNames ↔ c.hasGroup group = true := by
  unfold groupNames hasGroup
  split
  · simp
  · exact TextMap.mem_keys_iff c.processes group

/-- Groups are listed in the order of their names, each once. -/
theorem groupNames_sorted : c.groupNames.Pairwise (· < ·) := by
  unfold groupNames
  split
  · exact List.pairwise_singleton _ _
  · exact List.pairwise_map.2 c.processes.sorted

/-- There is always a group. -/
theorem groupNames_ne_nil : c.groupNames ≠ [] := by
  unfold groupNames
  split
  · exact List.cons_ne_nil _ _
  · rename_i hsome
    have hentries : c.processes.entries ≠ [] := by simpa [TextMap.isEmpty] using hsome
    simpa [TextMap.keys] using hentries

/-- The mounts that apply to a group. -/
def mountsOf (group : String) : List MountSpec := c.mounts.filter (·.appliesTo group)

variable {c}

theorem flatten_of_mem {group : String} (h : group ∈ c.groupNames) :
    c.flatten group = .ok ⟨group, c.processes.get? group, c.mountsOf group⟩ := by
  rw [mem_groupNames_iff] at h
  rw [flatten, if_pos h]
  rfl

variable (c)

/-- The name of the volume that new machines of a group mount. -/
def mountSource? (group : String) : Option String :=
  (c.flatten group).toOption.bind fun view => view.primaryMount.map (·.source)

variable {c}

theorem mountSource?_of_mem {group : String} (h : group ∈ c.groupNames) :
    c.mountSource? group = (c.mountsOf group).head?.map (·.source) := by
  rw [mountSource?, flatten_of_mem h]
  rfl

theorem mountSource?_of_mounts_nil (h : c.mounts = []) (group : String) :
    c.mountSource? group = none := by
  unfold mountSource? flatten
  split
  · simp [h, Except.toOption, GroupConfig.primaryMount]
  · rfl

/-! ## Validity -/

/-- What a mount must satisfy. -/
structure AcceptsMount (c : AppConfig) (m : MountSpec) : Prop where
  source : m.source ≠ ""
  absolute : m.destination.toList.head? = some '/'
  declared : ∀ group ∈ m.processes, c.hasGroup group = true

theorem validateMount_ok_iff {index : Nat} {m : MountSpec} :
    c.validateMount index m = .ok () ↔ c.AcceptsMount m := by
  have hgroups : m.processes.find? (!c.hasGroup ·) = none ↔
      ∀ group ∈ m.processes, c.hasGroup group = true := by simp
  unfold validateMount
  rw [guard_ok_iff, guard_ok_iff, Decidable.not_not]
  constructor
  · rintro ⟨hsource, habsolute, h⟩
    refine ⟨hsource, habsolute, hgroups.1 ?_⟩
    cases hfind : m.processes.find? (!c.hasGroup ·) with
    | none => rfl
    | some group =>
      rw [hfind] at h
      cases h
  · rintro ⟨hsource, habsolute, hdeclared⟩
    refine ⟨hsource, habsolute, ?_⟩
    rw [hgroups.2 hdeclared]

theorem validateMounts_ok_iff {mounts : List MountSpec} {index : Nat} :
    c.validateMounts index mounts = .ok () ↔ ∀ m ∈ mounts, c.AcceptsMount m := by
  induction mounts generalizing index with
  | nil => simp [validateMounts]
  | cons m mounts ih =>
    rw [validateMounts, bind_ok_iff, List.forall_mem_cons]
    constructor
    · rintro ⟨_, hfirst, hrest⟩
      exact ⟨validateMount_ok_iff.1 hfirst, ih.1 hrest⟩
    · rintro ⟨hfirst, hrest⟩
      exact ⟨(), validateMount_ok_iff.2 hfirst, ih.2 hrest⟩

theorem validate_ok_iff :
    c.validate = .ok () ↔ c.appName ≠ "" ∧ ∀ m ∈ c.mounts, c.AcceptsMount m := by
  rw [validate, guard_ok_iff, validateMounts_ok_iff]

/-- Every mount of a valid configuration is for some group. -/
theorem exists_group_of_validate (h : c.validate = .ok ()) {m : MountSpec} (hm : m ∈ c.mounts) :
    ∃ group ∈ c.groupNames, m ∈ c.mountsOf group := by
  cases hprocesses : m.processes with
  | nil =>
    -- it is for every group, and there is one
    obtain ⟨group, hgroup⟩ := List.exists_mem_of_ne_nil _ c.groupNames_ne_nil
    refine ⟨group, hgroup, List.mem_filter.2 ⟨hm, ?_⟩⟩
    simp [MountSpec.appliesTo, hprocesses]
  | cons group others =>
    have hdeclared : c.hasGroup group = true :=
      ((validate_ok_iff.1 h).2 m hm).declared group (by simp [hprocesses])
    refine ⟨group, (c.mem_groupNames_iff group).2 hdeclared, List.mem_filter.2 ⟨hm, ?_⟩⟩
    simp [MountSpec.appliesTo, hprocesses]

/-- A valid configuration mounts something exactly when some group has a mount that counts. -/
theorem hasMounts_iff (h : c.validate = .ok ()) :
    c.hasMounts = true ↔ ∃ group ∈ c.groupNames, ∃ view mount,
      c.flatten group = .ok view ∧ view.primaryMount = some mount := by
  constructor
  · intro hmounts
    have hne : c.mounts ≠ [] := by simpa [hasMounts] using hmounts
    obtain ⟨m, hm⟩ := List.exists_mem_of_ne_nil _ hne
    obtain ⟨group, hgroup, happlies⟩ := exists_group_of_validate h hm
    have hsome : ((c.mountsOf group).head?).isSome = true := by
      rw [List.isSome_head?]
      exact List.ne_nil_of_mem happlies
    obtain ⟨mount, hmount⟩ := Option.isSome_iff_exists.1 hsome
    exact ⟨group, hgroup, _, mount, flatten_of_mem hgroup, hmount⟩
  · rintro ⟨group, hgroup, view, mount, hview, hmount⟩
    rw [flatten_of_mem hgroup] at hview
    obtain rfl := Except.ok.inj hview
    have hmem : mount ∈ c.mounts := (List.mem_filter.1 (List.mem_of_mem_head? hmount)).1
    simpa [hasMounts] using List.ne_nil_of_mem hmem

end AppConfig

end Preflight
