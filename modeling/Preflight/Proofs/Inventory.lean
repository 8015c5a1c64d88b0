import Mathlib.Data.List.Nodup
import Preflight.ControlPlane.InMemory
import Preflight.MachineInventory
import Preflight.Proofs.TextMap

/-!
# Groups and images of an inventory

The inventory assigns groups by identifier.  As long as the machines of a listing, the one for the
release command included, have different identifiers, each machine is in the group that its own
metadata names (`MachineInventory.inGroup_ofListing`); and a listing inherits that from the
machines it was made of (`InMemoryPlane.nodup_listingOf`).

The image of an inventory is that of its first machine that has one
(`MachineInventory.firstImage_of_split`).
-/

namespace Preflight

namespace MachineInventory

/-! ## Groups -/

/-- When identifiers differ, a machine is in the group of its own metadata. -/
theorem groupOf?_ofListing {listing : MachineListing} {defaultGroup : String} {m : Machine}
    (hids : ((listing.machines ++ listing.releaseCommand.toList).map (·.id)).Nodup)
    (hm : m ∈ listing.machines) :
    (ofListing listing defaultGroup).groupOf? m = some (groupOrDefault defaultGroup m) := by
  refine TextMap.get?_ofList_of_mem ?_ ?_
  · rw [List.map_map]
    exact hids
  · exact List.mem_map.2 ⟨m, List.mem_append_left _ hm, rfl⟩

theorem inGroup_ofListing {listing : MachineListing} {defaultGroup : String}
    (hids : ((listing.machines ++ listing.releaseCommand.toList).map (·.id)).Nodup)
    (group : String) :
    (ofListing listing defaultGroup).inGroup group =
      listing.machines.filter fun m => groupOrDefault defaultGroup m == group := by
  unfold inGroup
  refine List.filter_congr ?_
  intro m hm
  rw [groupOf?_ofListing hids hm]
  rfl

/-! ## Images -/

variable {i : MachineInventory}

/-- The machines in front of the one that gives the image have none. -/
theorem firstImage_of_split {before after : List Machine} {m : Machine}
    (hsplit : i.machines = before ++ m :: after) (hbefore : ∀ k ∈ before, k.image = "")
    (hm : m.image ≠ "") : i.firstImage = some m.image := by
  have hnone : (before.map (·.image)).find? (· != "") = none := by
    rw [List.find?_eq_none]
    intro image himage
    obtain ⟨k, hk, rfl⟩ := List.mem_map.1 himage
    simp [hbefore k hk]
  rw [firstImage, hsplit, List.map_append, List.find?_append, hnone]
  simp [hm]

theorem firstImage_eq_none_iff : i.firstImage = none ↔ ∀ m ∈ i.machines, m.image = "" := by
  simp [firstImage]

theorem isSome_firstImage_iff :
    i.firstImage.isSome = true ↔ ∃ m ∈ i.machines, m.image ≠ "" := by
  simp [firstImage]

theorem ne_empty_of_firstImage {image : String} (h : i.firstImage = some image) : image ≠ "" := by
  simpa using List.find?_some h

end MachineInventory

/-! ## Listings of a plane -/

namespace InMemoryPlane

/-- The ordinary machines of the listing are the managed ones of those that are alive. -/
theorem listingOf_machines (machines : List Machine) :
    (listingOf machines).machines = (activeOf machines).filter (·.isManaged) := by
  simp only [listingOf, activeOf, List.filter_filter]
  refine List.filter_congr ?_
  intro m _
  cases m.isManaged <;> cases m.isActive <;> cases m.isReleaseCommand <;> rfl

/-- The machines of a listing have different identifiers when those of the application do. -/
theorem nodup_listingOf {machines : List Machine} (hids : (machines.map (·.id)).Nodup) :
    (((listingOf machines).machines ++ (listingOf machines).releaseCommand.toList).map
      (·.id)).Nodup := by
  have hsub : (listingOf machines).machines.Sublist machines :=
    List.filter_sublist.trans List.filter_sublist
  have hordinary : ((listingOf machines).machines.map (·.id)).Nodup := hids.sublist (hsub.map _)
  cases hrelease : (listingOf machines).releaseCommand with
  | none => simpa [hrelease] using hordinary
  | some m =>
    have hm : m ∈ machines := List.mem_of_mem_filter (List.mem_of_find?_eq_some hrelease)
    have htag : m.isReleaseCommand = true := List.find?_some hrelease
    rw [Option.toList_some, List.map_append, List.map_singleton, List.nodup_append]
    refine ⟨hordinary, List.nodup_singleton _, ?_⟩
    intro id hid id' hid' heq
    obtain ⟨m', hm', rfl⟩ := List.mem_map.1 hid
    rw [List.mem_singleton] at hid'
    -- one identifier, so one machine; but only one of the two is for the release command
    obtain rfl : m' = m :=
      List.inj_on_of_nodup_map hids (hsub.mem hm') hm (heq.trans hid')
    have hordinary' := (List.mem_filter.1 hm').2
    simp [htag] at hordinary'

end InMemoryPlane

end Preflight
