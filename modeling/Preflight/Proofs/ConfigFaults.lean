import Preflight.Proofs.AppConfig

/-!
# The groups and the faults of a configuration

A configuration that gives no group a command has a single group, and each function that speaks of
groups has its own way of saying so.  `AppConfig.Declares` says it without them, by what a look-up
finds, and `AppConfig.GroupsAgree` holds the functions against it and against each other.

A configuration is at fault when it has no name, and otherwise when one of its mounts is;
`AppConfig.MountFault` says what can be wrong with a mount, and how it is reported.  Of several
faults the first is reported: the name comes before the mounts, so that those of a configuration
without a name are not looked at, and the mounts come in the order in which they are configured.
Every mount of a configuration without a fault is in the view of some group.
-/

namespace Preflight

open Result

theorem MountSpec.appliesTo_iff {m : MountSpec} {group : String} :
    m.appliesTo group = true ↔ m.processes = [] ∨ group ∈ m.processes := by
  simp [MountSpec.appliesTo]

namespace AppConfig

variable (c : AppConfig)

/-! ## Groups -/

/-- A group is declared when it has a command; where none has, the sole group is. -/
def Declares (group : String) : Prop :=
  (∃ command, c.processes.get? group = some command) ∨
    (∀ other, c.processes.get? other = none) ∧ group = soleGroup

theorem hasGroup_iff_declares (group : String) : c.hasGroup group = true ↔ c.Declares group := by
  unfold hasGroup Declares
  split
  · rename_i hempty
    simp [TextMap.isEmpty_iff.1 hempty]
  · rename_i hsome
    have hnot : ¬ ∀ other, c.processes.get? other = none := by
      rwa [← TextMap.isEmpty_iff]
    simp [hnot, TextMap.contains, Option.isSome_iff_exists]

/-- Machines without a group are in the sole group if there is one, and else in the first. -/
theorem defaultGroup_eq : c.defaultGroup =
    if c.hasGroup soleGroup = true then soleGroup else c.groupNames.headD soleGroup := by
  unfold defaultGroup hasGroup groupNames
  cases c.processes.isEmpty <;> simp

theorem head?_groupNames : c.groupNames.head? = some (c.groupNames.headD soleGroup) := by
  cases hnames : c.groupNames with
  | nil => exact absurd hnames c.groupNames_ne_nil
  | cons first others => rfl

theorem defaultGroup_mem : c.defaultGroup ∈ c.groupNames := by
  rw [defaultGroup_eq]
  split
  · rename_i hsole
    exact (c.mem_groupNames_iff soleGroup).2 hsole
  · exact List.mem_of_mem_head? c.head?_groupNames

theorem mountsOf_eq (group : String) :
    c.mountsOf group = c.mounts.filter fun m => m.processes = [] ∨ group ∈ m.processes := by
  refine List.filter_congr fun m _ => ?_
  rw [Bool.eq_iff_iff, MountSpec.appliesTo_iff, decide_eq_true_iff]

variable {c}

/-- There is a view of the declared groups and of no others. -/
theorem flatten_ok_iff {group : String} {view : GroupConfig} :
    c.flatten group = .ok view ↔
      c.Declares group ∧ ⟨group, c.processes.get? group, c.mountsOf group⟩ = view := by
  rw [← hasGroup_iff_declares, flatten]
  split
  · rename_i hgroup
    rw [Except.ok.injEq]
    exact (and_iff_right hgroup).symm
  · rename_i hgroup
    simp [hgroup]

theorem flatten_error_iff {group : String} {e : ConfigError} :
    c.flatten group = .error e ↔ ¬ c.Declares group ∧ .unknownGroup group = e := by
  rw [← hasGroup_iff_declares, flatten]
  split
  · rename_i hgroup
    simp [hgroup]
  · rename_i hgroup
    rw [Except.error.injEq]
    exact (and_iff_right hgroup).symm

/-- What the functions that speak of groups say, each by itself and all together. -/
structure GroupsAgree (c : AppConfig) : Prop where
  listed : ∀ group, group ∈ c.groupNames ↔ c.Declares group
  decided : ∀ group, c.hasGroup group = true ↔ c.Declares group
  viewed : ∀ group, (∃ view, c.flatten group = .ok view) ↔ c.Declares group
  /-- There is always a group. -/
  inhabited : c.groupNames ≠ []
  /-- Groups are listed in the order of their names, each once. -/
  sorted : c.groupNames.Pairwise (· < ·)
  /-- Machines without a group are in a group that is declared. -/
  fallback : c.defaultGroup ∈ c.groupNames
  preferred : c.Declares soleGroup → c.defaultGroup = soleGroup
  first : ¬ c.Declares soleGroup → c.groupNames.head? = some c.defaultGroup
  /-- A view has the mounts that are for every group or for this one, in their order. -/
  mounted : ∀ group view, c.flatten group = .ok view →
    view.name = group ∧ view.command = c.processes.get? group ∧
      view.mounts = c.mounts.filter fun m => m.processes = [] ∨ group ∈ m.processes
  refused : ∀ group e, c.flatten group = .error e → e = .unknownGroup group

theorem groupsAgree (c : AppConfig) : c.GroupsAgree where
  listed group := (c.mem_groupNames_iff group).trans (c.hasGroup_iff_declares group)
  decided := c.hasGroup_iff_declares
  viewed group := by simp only [flatten_ok_iff, exists_and_left, exists_eq', and_true]
  inhabited := c.groupNames_ne_nil
  sorted := c.groupNames_sorted
  fallback := c.defaultGroup_mem
  preferred := by
    intro hsole
    rw [defaultGroup_eq, if_pos ((c.hasGroup_iff_declares soleGroup).2 hsole)]
  first := by
    intro hsole
    rw [defaultGroup_eq, if_neg (mt (c.hasGroup_iff_declares soleGroup).1 hsole)]
    exact c.head?_groupNames
  mounted := by
    intro group view hview
    obtain ⟨-, rfl⟩ := flatten_ok_iff.1 hview
    exact ⟨rfl, rfl, c.mountsOf_eq group⟩
  refused group e he := (flatten_error_iff.1 he).2.symm

/-! ## Faults -/

/-- What is wrong with a mount that stands at a place of the list, and how it is reported.  Its
source is looked at first, then its destination, and then its groups in turn. -/
inductive MountFault (c : AppConfig) (index : Nat) (m : MountSpec) : ConfigError → Prop where
  | source (h : m.source = "") : MountFault c index m (.emptyMountSource index)
  | destination (hsource : m.source ≠ "") (h : m.destination.toList.head? ≠ some '/') :
      MountFault c index m (.relativeMountDestination m.source m.destination)
  | group {before after : List String} {group : String} (hsource : m.source ≠ "")
      (hdestination : m.destination.toList.head? = some '/')
      (hgroups : m.processes = before ++ group :: after)
      (hbefore : ∀ earlier ∈ before, c.hasGroup earlier = true) (h : c.hasGroup group = false) :
      MountFault c index m (.unknownMountGroup m.source group)

/-- The first mount at fault is reported. -/
def FirstBadMount (c : AppConfig) (e : ConfigError) : Prop :=
  ∃ before m after, c.mounts = before ++ m :: after ∧ (∀ earlier ∈ before, c.AcceptsMount earlier) ∧
    c.MountFault before.length m e

/-- What is reported of a configuration: that it has no name and, only if it has one, its first
mount at fault. -/
inductive Fault (c : AppConfig) : ConfigError → Prop where
  | name (h : c.appName = "") : Fault c .emptyAppName
  | mount {e : ConfigError} (hname : c.appName ≠ "") (h : c.FirstBadMount e) : Fault c e

theorem find?_undeclared_iff {m : MountSpec} {group : String} :
    m.processes.find? (!c.hasGroup ·) = some group ↔ c.hasGroup group = false ∧
      ∃ before after, m.processes = before ++ group :: after ∧
        ∀ earlier ∈ before, c.hasGroup earlier = true := by
  simp [List.find?_eq_some_iff_append]

theorem validateMount_error_iff {index : Nat} {m : MountSpec} {e : ConfigError} :
    c.validateMount index m = .error e ↔ c.MountFault index m e := by
  unfold validateMount
  rw [guard_error_iff, guard_error_iff]
  constructor
  · rintro (⟨hsource, rfl⟩ | ⟨hsource, ⟨hrelative, rfl⟩ | ⟨habsolute, h⟩⟩)
    · exact .source hsource
    · exact .destination hsource hrelative
    · cases hfind : m.processes.find? (!c.hasGroup ·) with
      | none =>
        rw [hfind] at h
        cases h
      | some group =>
        rw [hfind] at h
        cases h
        obtain ⟨hgroup, before, after, hgroups, hbefore⟩ := find?_undeclared_iff.1 hfind
        exact .group hsource (Decidable.not_not.1 habsolute) hgroups hbefore hgroup
  · rintro (hsource | ⟨hsource, hrelative⟩ | ⟨hsource, habsolute, hgroups, hbefore, hgroup⟩)
    · exact .inl ⟨hsource, rfl⟩
    · exact .inr ⟨hsource, .inl ⟨hrelative, rfl⟩⟩
    · refine .inr ⟨hsource, .inr ⟨not_not_intro habsolute, ?_⟩⟩
      rw [find?_undeclared_iff.2 ⟨hgroup, _, _, hgroups, hbefore⟩]

/-- A mount is at fault exactly when it is not accepted. -/
theorem not_acceptsMount_iff {index : Nat} {m : MountSpec} :
    ¬ c.AcceptsMount m ↔ ∃ e, c.MountFault index m e := by
  rw [← @validateMount_ok_iff c index m]
  simp only [← validateMount_error_iff]
  cases c.validateMount index m <;> simp

/-- Mounts are checked one after the other, each with its place in the list. -/
theorem validateMounts_eq_forM (index : Nat) (mounts : List MountSpec) :
    c.validateMounts index mounts =
      (mounts.zipIdx index).forM fun placed => c.validateMount placed.2 placed.1 := by
  induction mounts generalizing index with
  | nil => rfl
  | cons m mounts ih =>
    rw [validateMounts, ih]
    rfl

theorem validateMounts_error_iff {index : Nat} {mounts : List MountSpec} {e : ConfigError} :
    c.validateMounts index mounts = .error e ↔
      ∃ before m after, mounts = before ++ m :: after ∧
        (∀ earlier ∈ before, c.AcceptsMount earlier) ∧
        c.MountFault (index + before.length) m e := by
  -- the checks before the one that fails are again those of a list of mounts
  have hpassed : ∀ before : List MountSpec,
      (∀ placed ∈ before.zipIdx index, c.validateMount placed.2 placed.1 = .ok ()) ↔
        ∀ earlier ∈ before, c.AcceptsMount earlier := by
    intro before
    rw [← forM_ok_iff, ← validateMounts_eq_forM, validateMounts_ok_iff]
  rw [validateMounts_eq_forM, forM_error_iff]
  constructor
  · rintro ⟨placed, ⟨m, place⟩, rest, hsplit, hbefore, h⟩
    obtain ⟨before, tail, rfl, rfl, hrest⟩ := List.zipIdx_eq_append_iff.1 hsplit
    obtain ⟨_, after, rfl, ⟨⟩, -⟩ := List.zipIdx_eq_cons_iff.1 hrest.symm
    exact ⟨before, m, after, rfl, (hpassed before).1 hbefore, validateMount_error_iff.1 h⟩
  · rintro ⟨before, m, after, rfl, hbefore, h⟩
    have hsplit : (before ++ m :: after).zipIdx index = before.zipIdx index ++
        (m, index + before.length) :: after.zipIdx (index + before.length + 1) := by
      rw [List.zipIdx_append, List.zipIdx_cons]
    exact ⟨_, _, _, hsplit, (hpassed before).2 hbefore, validateMount_error_iff.2 h⟩

theorem validate_error_iff {e : ConfigError} : c.validate = .error e ↔ c.Fault e := by
  have hmounts : c.validateMounts 0 c.mounts = .error e ↔ c.FirstBadMount e := by
    simp only [validateMounts_error_iff, Nat.zero_add, FirstBadMount]
  rw [validate, guard_error_iff, hmounts]
  constructor
  · rintro (⟨hname, rfl⟩ | ⟨hname, h⟩)
    · exact .name hname
    · exact .mount hname h
  · rintro (hname | ⟨hname, h⟩)
    · exact .inl ⟨hname, rfl⟩
    · exact .inr ⟨hname, h⟩

/-- The functions that speak of groups agree about every configuration.  It is valid when it has a
name and accepts its mounts, and no mount is then left out of all views; otherwise the first fault
is reported. -/
theorem validate_reports_first (c : AppConfig) :
    c.GroupsAgree ∧
    (c.validate = .ok () ↔ c.appName ≠ "" ∧ ∀ m ∈ c.mounts, c.AcceptsMount m) ∧
    (∀ index m, ¬ c.AcceptsMount m ↔ ∃ e, c.MountFault index m e) ∧
    (∀ e, c.validate = .error e ↔ c.Fault e) ∧
    (c.validate = .ok () → ∀ m ∈ c.mounts, ∃ group view,
      c.Declares group ∧ c.flatten group = .ok view ∧ m ∈ view.mounts) := by
  refine ⟨c.groupsAgree, validate_ok_iff, ?_, ?_, ?_⟩
  · intro index m
    exact not_acceptsMount_iff
  · intro e
    exact validate_error_iff
  · intro hvalid m hm
    obtain ⟨group, hgroup, hmounted⟩ := exists_group_of_validate hvalid hm
    have hdeclared : c.Declares group := (c.groupsAgree.listed group).1 hgroup
    exact ⟨group, _, hdeclared, flatten_of_mem hgroup, hmounted⟩

/-- A configuration without a name whose only mount has no source. -/
def nameless : AppConfig := { mounts := [{ source := "", destination := "/data" }] }

/-- A bad mount is not reported where the name is missing. -/
theorem validate_passes_over_mounts :
    nameless.FirstBadMount (.emptyMountSource 0) ∧ nameless.validate = .error .emptyAppName ∧
      ¬ nameless.FirstBadMount .emptyAppName := by
  refine ⟨⟨[], _, [], rfl, by simp, .source rfl⟩, rfl, ?_⟩
  rintro ⟨before, m, after, -, -, ⟨⟩⟩

end AppConfig

end Preflight
