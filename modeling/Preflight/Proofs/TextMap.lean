import Preflight.TextMap

/-!
# What maps hold

Each way of building a map is described by what a look-up finds afterwards: several insertions by
`get?_insertAll`, a list of entries by `get?_ofList`, a grouping by `listAt_groupBy`.  The keys of
a map are the texts at which a look-up finds something (`mem_keys_iff`), its entries are what
look-ups find (`mem_entries_iff`), and look-ups tell two maps apart (`ext_get?`).  A grouping loses
no element and adds none (`elements_groupBy`), and it has no empty list.
-/

namespace Preflight

namespace TextMap

variable {α β : Type}

/-! ## Look-ups -/

theorem get?_insertAll (m : TextMap α) (entries : List (String × α)) (key : String) :
    (m.insertAll entries).get? key = (entries.reverse.lookup key).or (m.get? key) := by
  induction entries generalizing m with
  | nil => simp [insertAll]
  | cons e entries ih =>
    obtain ⟨k, value⟩ := e
    have hstep : m.insertAll ((k, value) :: entries) = (m.insert k value).insertAll entries := rfl
    rw [hstep, ih, get?_insert, List.reverse_cons, List.lookup_append, Option.or_assoc]
    congr 1
    by_cases h : key = k
    · simp [h]
    · have hmiss : (key == k) = false := by simpa using h
      simp [List.lookup_cons, h, hmiss]

/-- Of two entries with one key the later one is found. -/
theorem get?_ofList (entries : List (String × α)) (key : String) :
    (ofList entries).get? key = entries.reverse.lookup key := by
  rw [ofList, get?_insertAll, get?_empty, Option.or_none]

/-- The last entry with a key decides. -/
theorem get?_ofList_append_cons {before after : List (String × α)} {key : String} {value : α}
    (hafter : ∀ e ∈ after, e.1 ≠ key) :
    (ofList (before ++ (key, value) :: after)).get? key = some value := by
  have hmiss : after.reverse.lookup key = none := by
    rw [List.lookup_eq_none_iff]
    intro e he
    simpa using Ne.symm (hafter e (List.mem_reverse.1 he))
  rw [get?_ofList, List.reverse_append, List.reverse_cons, List.append_assoc,
    List.lookup_append, hmiss]
  simp

theorem get?_ofList_of_not_mem {entries : List (String × α)} {key : String}
    (h : ∀ e ∈ entries, e.1 ≠ key) : (ofList entries).get? key = none := by
  rw [get?_ofList, List.lookup_eq_none_iff]
  intro e he
  simpa using Ne.symm (h e (List.mem_reverse.1 he))

/-- A list whose keys all differ is found again entry by entry. -/
theorem get?_ofList_of_mem {entries : List (String × α)} {key : String} {value : α}
    (hkeys : (entries.map (·.1)).Nodup) (hmem : (key, value) ∈ entries) :
    (ofList entries).get? key = some value := by
  rw [get?_ofList]
  induction entries with
  | nil => cases hmem
  | cons e entries ih =>
    rw [List.map_cons, List.nodup_cons] at hkeys
    obtain ⟨hhead, htail⟩ := hkeys
    rw [List.reverse_cons, List.lookup_append]
    rcases List.mem_cons.1 hmem with rfl | hmem
    · have hmiss : entries.reverse.lookup key = none := by
        rw [List.lookup_eq_none_iff]
        intro p hp
        have hne : key ≠ p.1 := by
          intro heq
          exact hhead (List.mem_map.2 ⟨p, List.mem_reverse.1 hp, heq.symm⟩)
        simpa using hne
      simp [hmiss]
    · simp [ih htail hmem]

@[simp] theorem listAt_empty (key : String) : (empty : TextMap (List β)).listAt key = [] := rfl

theorem listAt_insert (m : TextMap (List β)) (key k : String) (xs : List β) :
    (m.insert key xs).listAt k = if k = key then xs else m.listAt k := by
  simp only [listAt, get?_insert]
  split <;> rfl

/-- A grouping holds under each label the elements of that label, in their order. -/
theorem listAt_groupBy (label : β → String) (xs : List β) (key : String) :
    (groupBy label xs).listAt key = xs.filter (label · == key) := by
  have hfold : ∀ m : TextMap (List β),
      (xs.foldl (fun acc x => acc.push (label x) x) m).listAt key =
        m.listAt key ++ xs.filter (label · == key) := by
    induction xs with
    | nil => simp
    | cons x xs ih =>
      intro m
      rw [List.foldl_cons, ih, listAt_push]
      by_cases h : key = label x
      · simp [h]
      · have hmiss : (label x == key) = false := by simpa using Ne.symm h
        simp [h, hmiss]
  rw [groupBy, hfold, listAt_empty, List.nil_append]

/-! ## Keys -/

theorem mem_keys_iff (m : TextMap α) (key : String) : key ∈ m.keys ↔ m.contains key := by
  rw [contains, get?, keys]
  induction m.entries with
  | nil => simp
  | cons e entries ih =>
    by_cases h : key = e.1
    · simp [h]
    · have hmiss : (key == e.1) = false := by simpa using h
      rw [List.map_cons, List.mem_cons, ih, List.lookup_cons, hmiss]
      simp [h]

/-! ## Entries -/

theorem mem_entries_iff {m : TextMap α} {key : String} {value : α} :
    (key, value) ∈ m.entries ↔ m.get? key = some value := by
  obtain ⟨entries, hsorted⟩ := m
  simp only [get?]
  induction entries with
  | nil => simp
  | cons e entries ih =>
    obtain ⟨hhead, htail⟩ := List.pairwise_cons.1 hsorted
    by_cases h : key = e.1
    · -- the rest has greater keys, so that the entry can only be the head
      have hrest : (key, value) ∉ entries := by
        intro hmem
        have hlt := hhead _ hmem
        rw [← h] at hlt
        exact String.lt_irrefl key hlt
      obtain ⟨k, v⟩ := e
      subst h
      simp [hrest, eq_comm]
    · have hmiss : (key == e.1) = false := by simpa using h
      have hne : (key, value) ≠ e := fun heq => h (congrArg Prod.fst heq)
      rw [List.lookup_cons, hmiss, List.mem_cons]
      simp [hne, ih htail]

theorem isEmpty_iff {m : TextMap α} : m.isEmpty = true ↔ ∀ key, m.get? key = none := by
  rw [isEmpty, List.isEmpty_iff, List.eq_nil_iff_forall_not_mem]
  constructor
  · intro h key
    cases hget : m.get? key with
    | none => rfl
    | some value => exact absurd (mem_entries_iff.2 hget) (h (key, value))
  · rintro h ⟨key, value⟩ he
    rw [mem_entries_iff, h key] at he
    cases he

/-- A map is known by its look-ups. -/
theorem ext_get? {m n : TextMap α} (h : ∀ key, m.get? key = n.get? key) : m = n := by
  have hnodup : ∀ k : TextMap α, k.entries.Nodup := by
    intro k
    refine k.sorted.imp ?_
    rintro e _ hlt rfl
    exact String.lt_irrefl e.1 hlt
  have hperm : m.entries.Perm n.entries := by
    rw [List.perm_ext_iff_of_nodup (hnodup m) (hnodup n)]
    intro e
    rw [mem_entries_iff, mem_entries_iff, h]
  refine ext (hperm.eq_of_pairwise ?_ m.sorted n.sorted)
  intro e f _ _ hef hfe
  exact absurd (String.lt_trans hef hfe) (String.lt_irrefl _)

theorem nodup_keys (m : TextMap α) : (m.entries.map (·.1)).Nodup := by
  refine List.pairwise_map.2 (m.sorted.imp ?_)
  intro e f hlt heq
  exact String.lt_irrefl f.1 (heq ▸ hlt)

/-- A map is made of its entries. -/
theorem ofList_entries (m : TextMap α) : ofList m.entries = m := by
  refine ext_get? fun key => ?_
  have hkeys := m.nodup_keys
  cases hget : m.get? key with
  | some value => exact get?_ofList_of_mem hkeys (mem_entries_iff.2 hget)
  | none =>
    refine get?_ofList_of_not_mem ?_
    rintro ⟨k, value⟩ he rfl
    rw [mem_entries_iff.1 he] at hget
    cases hget

/-- What one map sets of another is found first. -/
theorem get?_insertAll_entries (m n : TextMap α) (key : String) :
    (m.insertAll n.entries).get? key = (n.get? key).or (m.get? key) := by
  rw [get?_insertAll, ← get?_ofList, ofList_entries]

/-! ## Groupings -/

/-- The elements of all the lists in a map, list after list. -/
def elements (m : TextMap (List β)) : List β := m.entries.flatMap (·.2)

theorem get?_push (m : TextMap (List β)) (key k : String) (x : β) :
    (m.push key x).get? k = if k = key then some (m.listAt key ++ [x]) else m.get? k :=
  get?_insert m key k _

/-- Appending adds the element to those that are there. -/
theorem elements_push (m : TextMap (List β)) (key : String) (x : β) :
    (m.push key x).elements.Perm (x :: m.elements) := by
  obtain ⟨entries, hsorted⟩ := m
  show ((insertEntry key ((entries.lookup key).getD [] ++ [x]) entries).flatMap (·.2)).Perm
    (x :: entries.flatMap (·.2))
  induction entries with
  | nil => simp [insertEntry]
  | cons e entries ih =>
    obtain ⟨hhead, htail⟩ := List.pairwise_cons.1 hsorted
    obtain ⟨k, ys⟩ := e
    have hrest := ih htail
    unfold insertEntry
    split
    · rename_i hlt
      -- every key is greater, so that nothing was stored under this one
      have hmiss : (((k, ys) :: entries).lookup key) = none := by
        rw [List.lookup_eq_none_iff]
        intro p hp
        have hless : key < p.1 := by
          rcases List.mem_cons.1 hp with rfl | hp
          · exact hlt
          · exact String.lt_trans hlt (hhead p hp)
        have hne : key ≠ p.1 := fun heq => String.lt_irrefl key (heq ▸ hless)
        simpa using hne
      simp [hmiss]
    · split
      · rename_i heq
        subst heq
        simp only [List.lookup_cons_self, Option.getD_some, List.flatMap_cons, List.append_assoc]
        exact List.perm_middle
      · rename_i hne
        have hmiss : (key == k) = false := by simpa using hne
        rw [List.lookup_cons, hmiss, List.flatMap_cons, List.flatMap_cons]
        exact (hrest.append_left ys).trans List.perm_middle

/-- The lists of a grouping together have the elements that were grouped. -/
theorem elements_groupBy (label : β → String) (xs : List β) :
    (groupBy label xs).elements.Perm xs := by
  have hfold : ∀ m : TextMap (List β),
      (xs.foldl (fun acc x => acc.push (label x) x) m).elements.Perm (xs ++ m.elements) := by
    induction xs with
    | nil => exact fun m => .refl _
    | cons x xs ih =>
      intro m
      have hpush := (elements_push m (label x) x).append_left xs
      exact ((ih _).trans hpush).trans List.perm_middle
  have hnil : (empty : TextMap (List β)).elements = [] := rfl
  have hall := hfold empty
  rwa [hnil, List.append_nil] at hall

/-- No list of a grouping is empty. -/
theorem forall_get?_groupBy_ne_nil (label : β → String) (xs : List β) :
    ∀ key ys, (groupBy label xs).get? key = some ys → ys ≠ [] := by
  have hfold : ∀ m : TextMap (List β), (∀ k zs, m.get? k = some zs → zs ≠ []) →
      ∀ k zs, (xs.foldl (fun acc x => acc.push (label x) x) m).get? k = some zs → zs ≠ [] := by
    induction xs with
    | nil => exact fun m hm => hm
    | cons x xs ih =>
      intro m hm
      rw [List.foldl_cons]
      refine ih _ ?_
      intro k zs hzs
      rw [get?_push] at hzs
      split at hzs
      · cases hzs
        simp
      · exact hm k zs hzs
  exact hfold empty (by simp)

end TextMap

end Preflight
