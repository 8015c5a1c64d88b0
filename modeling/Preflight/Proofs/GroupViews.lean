import Mathlib.Data.List.Basic
import Preflight.Proofs.Inventory

/-!
# The groups divide the machines

An inventory keeps the machines of its listing as they are and the group of each in a map by
identifier.  The views walk over the machines and ask the map, so that a machine could be lost
where the map had no group for it; but the map was made of the same machines
(`groupOf?_ofListing_isSome`).  Hence `byGroup` is a plain grouping (`byGroup_ofListing`), and what
is known of groupings gives the division.

Identifiers may repeat.  The map then has the group of the last entry, which
`groupOf?_of_last` finds, and the machine for the release command comes after all others: it lends
its group to an ordinary machine of the same identifier without being in that group itself.
-/

namespace Preflight

namespace MachineInventory

variable {listing : MachineListing} {defaultGroup : String}

/-! ## The group of a machine -/

/-- The machines that give groups to identifiers, in the order in which they do. -/
def lenders (listing : MachineListing) : List Machine :=
  listing.machines ++ listing.releaseCommand.toList

/-- The last machine with an identifier decides. -/
theorem groupOf?_of_last {before after : List Machine} {k m : Machine}
    (hsplit : lenders listing = before ++ k :: after) (hid : k.id = m.id)
    (hafter : ∀ x ∈ after, x.id ≠ m.id) :
    (ofListing listing defaultGroup).groupOf? m = some (groupOrDefault defaultGroup k) := by
  have hentries : (ofListing listing defaultGroup).groups = .ofList
      ((lenders listing).map fun x => (x.id, groupOrDefault defaultGroup x)) := rfl
  rw [groupOf?, hentries, hsplit, List.map_append, List.map_cons, hid]
  refine TextMap.get?_ofList_append_cons ?_
  intro e he
  obtain ⟨x, hx, rfl⟩ := List.mem_map.1 he
  exact hafter x hx

theorem groupOf?_of_not_mem {m : Machine} (h : ∀ k ∈ lenders listing, k.id ≠ m.id) :
    (ofListing listing defaultGroup).groupOf? m = none := by
  refine TextMap.get?_ofList_of_not_mem ?_
  intro e he
  obtain ⟨x, hx, rfl⟩ := List.mem_map.1 he
  exact h x hx

/-- Among machines one of which has an identifier, there is a last one that has it. -/
theorem exists_last_of_id {machines : List Machine} {id : String}
    (h : ∃ m ∈ machines, m.id = id) :
    ∃ before k after, machines = before ++ k :: after ∧ k.id = id ∧ ∀ x ∈ after, x.id ≠ id := by
  induction machines with
  | nil =>
    obtain ⟨_, ⟨⟩, -⟩ := h
  | cons head rest ih =>
    by_cases hrest : ∃ m ∈ rest, m.id = id
    · obtain ⟨before, k, after, rfl, hid, hafter⟩ := ih hrest
      exact ⟨head :: before, k, after, rfl, hid, hafter⟩
    · obtain ⟨m, hm, hid⟩ := h
      have hhead : m = head := by
        rcases List.mem_cons.1 hm with heq | hmem
        · exact heq
        · exact absurd ⟨m, hmem, hid⟩ hrest
      subst hhead
      exact ⟨[], m, rest, rfl, hid, fun x hx heq => hrest ⟨x, hx, heq⟩⟩

variable (defaultGroup) in
/-- No machine of the listing is without a group. -/
theorem groupOf?_ofListing_isSome {m : Machine} (hm : m ∈ listing.machines) :
    ∃ group, (ofListing listing defaultGroup).groupOf? m = some group := by
  have hlender : ∃ k ∈ lenders listing, k.id = m.id := ⟨m, List.mem_append_left _ hm, rfl⟩
  obtain ⟨before, k, after, hsplit, hid, hafter⟩ := exists_last_of_id hlender
  exact ⟨_, groupOf?_of_last hsplit hid hafter⟩

theorem groupOf?_of_releaseCommand {release m : Machine}
    (hrelease : listing.releaseCommand = some release) (hid : release.id = m.id) :
    (ofListing listing defaultGroup).groupOf? m =
      some (groupOrDefault defaultGroup release) := by
  have hsplit : lenders listing = listing.machines ++ [release] := by
    rw [lenders, hrelease, Option.toList_some]
  exact groupOf?_of_last hsplit hid (by simp)

theorem mem_inGroup_iff {i : MachineInventory} {group : String} {m : Machine} :
    m ∈ i.inGroup group ↔ m ∈ i.machines ∧ i.groupOf? m = some group := by
  simp [inGroup]

/-! ## The machines by group -/

/-- Where every machine has a group, the machines are grouped by it. -/
theorem byGroup_eq_groupBy {i : MachineInventory}
    (h : ∀ m ∈ i.machines, ∃ group, i.groupOf? m = some group) :
    i.byGroup = .groupBy (fun m => (i.groupOf? m).getD "") i.machines := by
  refine List.foldl_ext _ _ _ ?_
  intro groups m hm
  obtain ⟨group, hgroup⟩ := h m hm
  simp [hgroup]

theorem byGroup_ofListing (listing : MachineListing) (defaultGroup : String) :
    (ofListing listing defaultGroup).byGroup = .groupBy
      (fun m => ((ofListing listing defaultGroup).groupOf? m).getD "") listing.machines :=
  byGroup_eq_groupBy fun _ hm => groupOf?_ofListing_isSome defaultGroup hm

/-- The two views agree. -/
theorem listAt_byGroup (listing : MachineListing) (defaultGroup group : String) :
    (ofListing listing defaultGroup).byGroup.listAt group =
      (ofListing listing defaultGroup).inGroup group := by
  rw [byGroup_ofListing, TextMap.listAt_groupBy]
  refine List.filter_congr ?_
  intro m hm
  obtain ⟨g, hg⟩ := groupOf?_ofListing_isSome defaultGroup hm
  simp [hg]

/-- How an inventory divides the machines of the listing it was made of. -/
structure DividesMachines (listing : MachineListing) (defaultGroup : String)
    (i : MachineInventory) : Prop where
  /-- The machines are those of the listing. -/
  machines : i.machines = listing.machines
  /-- The lists of the groups together are the machines in another order. -/
  division : i.byGroup.elements.Perm i.machines
  /-- Each machine is in the list of exactly one group. -/
  assigned : ∀ m ∈ i.machines, ∃! group, m ∈ i.byGroup.listAt group
  /-- A list has something in it, keeps the order of the machines, and is the view of its group. -/
  listed : ∀ group members, i.byGroup.get? group = some members →
    members ≠ [] ∧ members.Sublist i.machines ∧ members = i.inGroup group
  unlisted : ∀ group, i.byGroup.get? group = none → i.inGroup group = []
  /-- Of the machines with one identifier the last one decides, the machine for the release command
  coming after the others. -/
  decided : ∀ before k after m,
    listing.machines ++ listing.releaseCommand.toList = before ++ k :: after → k.id = m.id →
    (∀ x ∈ after, x.id ≠ m.id) →
    i.groupOf? m = some (if k.processGroup = "" then defaultGroup else k.processGroup)
  undecided : ∀ m,
    (∀ k ∈ listing.machines ++ listing.releaseCommand.toList, k.id ≠ m.id) → i.groupOf? m = none
  /-- With different identifiers each machine is in the group of its own metadata. -/
  own : ((listing.machines ++ listing.releaseCommand.toList).map (·.id)).Nodup →
    ∀ m ∈ i.machines,
      m ∈ i.inGroup (if m.processGroup = "" then defaultGroup else m.processGroup)
  /-- The machine for the release command is itself in no group. -/
  apart : ∀ release, listing.releaseCommand = some release → release ∉ listing.machines →
    ∀ group, release ∉ i.byGroup.listAt group
  /-- It lends its group to an ordinary machine of the same identifier. -/
  lent : ∀ release m, listing.releaseCommand = some release → m ∈ listing.machines →
    m.id = release.id → m ∈ i.byGroup.listAt
      (if release.processGroup = "" then defaultGroup else release.processGroup)

/-- The views of an inventory divide the machines of every listing. -/
theorem ofListing_dividesMachines (listing : MachineListing) (defaultGroup : String) :
    DividesMachines listing defaultGroup (ofListing listing defaultGroup) where
  machines := rfl
  division := by
    rw [byGroup_ofListing]
    exact TextMap.elements_groupBy _ _
  assigned := by
    intro m hm
    obtain ⟨group, hgroup⟩ := groupOf?_ofListing_isSome defaultGroup hm
    simp only [listAt_byGroup, mem_inGroup_iff]
    refine ⟨group, ⟨hm, hgroup⟩, ?_⟩
    rintro other ⟨-, hother⟩
    exact Option.some.inj (hother.symm.trans hgroup)
  listed := by
    intro group members hmembers
    have hlist : members = (ofListing listing defaultGroup).inGroup group := by
      rw [← listAt_byGroup, TextMap.listAt, hmembers, Option.getD_some]
    refine ⟨?_, ?_, hlist⟩
    · rw [byGroup_ofListing] at hmembers
      exact TextMap.forall_get?_groupBy_ne_nil _ _ group members hmembers
    · rw [hlist]
      exact List.filter_sublist
  unlisted := by
    intro group hnone
    rw [← listAt_byGroup, TextMap.listAt, hnone, Option.getD_none]
  decided := fun _ _ _ _ hsplit hid hafter => groupOf?_of_last hsplit hid hafter
  undecided := fun _ h => groupOf?_of_not_mem h
  own := fun hids _ hm => mem_inGroup_iff.2 ⟨hm, groupOf?_ofListing hids hm⟩
  apart := by
    intro release _ hnot group hmem
    rw [listAt_byGroup, mem_inGroup_iff] at hmem
    exact hnot hmem.1
  lent := by
    intro release m hrelease hm hid
    rw [listAt_byGroup, mem_inGroup_iff]
    exact ⟨hm, groupOf?_of_releaseCommand hrelease hid.symm⟩

/-- Two machines of one identifier are in the group of the later one, and a third one is in the
group of the release command. -/
example :
    let tagged (id group : String) : Machine := (Machine.started id "shop:1").managed group
    let i := ofListing ⟨[tagged "m_1" "web", tagged "m_2" "", tagged "m_1" "worker",
      tagged "m_3" "web"], some (tagged "m_3" Machine.releaseCommandGroup)⟩ "app"
    i.byGroup.entries.map (fun e => (e.1, e.2.map (·.id))) =
      [("app", ["m_2"]), (Machine.releaseCommandGroup, ["m_3"]), ("worker", ["m_1", "m_1"])] := by
  decide +kernel

end MachineInventory

end Preflight
