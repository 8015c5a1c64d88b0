import Mathlib.Algebra.GroupWithZero.Nat
import Mathlib.Data.List.ReduceOption
import Preflight.Proofs.Reservations

/-!
# Runs of reservations

What a sequence of reservations answers can be told from the list of volumes alone.  Two facts carry
it.  A call answers the head of its queue, so that the calls of one name go through its queue from
the front (`getElem?_reserveEach`, `answersTo_reserveEach`).  And of each queue a run leaves what is
beyond the calls of its name (`get?_reserveEach`); a queue that is used up stays in the map, where
`counts` and `total` do not see it.

`RefinesList` says it of the free volumes of a list.  The volumes are told apart by their places in
the list, for nothing keeps two of them from being equal.
-/

namespace Preflight

namespace VolumeReservations

/-! ## Runs -/

/-- Ask for a volume of a name: the volume, if there was one, and what is left. -/
def reserve (r : VolumeReservations) (name : String) : Option Volume × VolumeReservations :=
  match r.reserve? name with
  | some (v, left) => (some v, left)
  | none => (none, r)

/-- Ask for one name after the other. -/
def reserveEach : VolumeReservations → List String → List (Option Volume) × VolumeReservations
  | r, [] => ([], r)
  | r, name :: names =>
    let rest := (r.reserve name).2.reserveEach names
    ((r.reserve name).1 :: rest.1, rest.2)

/-- The answers to the calls of one name, in order. -/
def answersTo (name : String) (names : List String) (answers : List (Option Volume)) :
    List (Option Volume) :=
  ((names.zip answers).filter (·.1 == name)).map (·.2)

/-! ## Steps -/

theorem reserve_fst (r : VolumeReservations) (name : String) :
    (r.reserve name).1 = (r.queues.listAt name).head? := by
  unfold reserve reserve?
  cases r.queues.listAt name <;> rfl

/-- A call takes the head of its queue, if there is one, and leaves the others alone. -/
theorem get?_reserve (r : VolumeReservations) (name n : String) :
    (r.reserve name).2.queues.get? n =
      (r.queues.get? n).map (·.drop (if n = name then 1 else 0)) := by
  unfold reserve reserve?
  cases hqueue : r.queues.listAt name with
  | nil =>
    by_cases hn : n = name
    · subst hn
      cases hget : r.queues.get? n with
      | none => simp
      | some queue =>
        have hempty : queue = [] := by simpa [TextMap.listAt, hget] using hqueue
        simp [hempty]
    · simp [hn]
  | cons v rest =>
    show (r.queues.insert name rest).get? n = _
    rw [TextMap.get?_insert]
    by_cases hn : n = name
    · subst hn
      cases hget : r.queues.get? n with
      | none => simp [TextMap.listAt, hget] at hqueue
      | some queue =>
        have hcons : queue = v :: rest := by simpa [TextMap.listAt, hget] using hqueue
        simp [hcons]
    · simp [hn]

theorem listAt_of_get? {r left : VolumeReservations} {n : String} {taken : Nat}
    (h : left.queues.get? n = (r.queues.get? n).map (·.drop taken)) :
    left.queues.listAt n = (r.queues.listAt n).drop taken := by
  rw [TextMap.listAt, TextMap.listAt, h]
  cases r.queues.get? n <;> simp

theorem listAt_reserve (r : VolumeReservations) (name n : String) :
    (r.reserve name).2.queues.listAt n =
      (r.queues.listAt n).drop (if n = name then 1 else 0) :=
  listAt_of_get? (get?_reserve r name n)

theorem queueLength_reserve (r : VolumeReservations) (name n : String) :
    (r.reserve name).2.queueLength n = r.queueLength n - if n = name then 1 else 0 := by
  rw [queueLength, listAt_reserve, List.length_drop]
  rfl

/-- A volume is found when there is one. -/
theorem exists_reserve_iff (r : VolumeReservations) (name : String) :
    (∃ v, (r.reserve name).1 = some v) ↔ 0 < r.queueLength name := by
  rw [reserve_fst, queueLength]
  cases r.queues.listAt name <;> simp

theorem reserve_of_none {r : VolumeReservations} {name : String} (h : (r.reserve name).1 = none) :
    (r.reserve name).2 = r := by
  unfold reserve at h ⊢
  cases hreserve : r.reserve? name with
  | none => rfl
  | some taken => simp [hreserve] at h

/-! ## Names -/

/-- Every volume is in the queue of its own name. -/
def FiledByName (r : VolumeReservations) : Prop := ∀ name, ∀ v ∈ r.queues.listAt name, v.name = name

theorem filedByName_ofVolumes (volumes : List Volume) : (ofVolumes volumes).FiledByName := by
  intro name v hv
  rw [listAt_ofVolumes, List.mem_filter, Bool.and_eq_true, beq_iff_eq] at hv
  exact hv.2.2

theorem filedByName_empty : empty.FiledByName := filedByName_ofVolumes []

theorem FiledByName.reserve {r : VolumeReservations} (h : r.FiledByName) (name : String) :
    (r.reserve name).2.FiledByName := by
  intro n v hv
  rw [listAt_reserve] at hv
  exact h n v (List.mem_of_mem_drop hv)

theorem FiledByName.name_eq {r : VolumeReservations} (h : r.FiledByName) {name : String}
    {v : Volume} (hv : (r.reserve name).1 = some v) : v.name = name := by
  rw [reserve_fst] at hv
  exact h name v (List.mem_of_mem_head? hv)

theorem FiledByName.reserveAll {names : List String} {r left : VolumeReservations}
    (hr : r.FiledByName) (h : ProvisionHook.reserveAll names r = .ok left) :
    left.FiledByName := by
  induction names generalizing r with
  | nil =>
    obtain rfl : r = left := Except.ok.inj h
    exact hr
  | cons name names ih =>
    unfold ProvisionHook.reserveAll at h
    split at h
    · rename_i v rest hreserve
      have hrest := hr.reserve name
      rw [VolumeReservations.reserve, hreserve] at hrest
      exact ih hrest h
    · cases h

/-! ## Answers -/

theorem length_reserveEach (r : VolumeReservations) (names : List String) :
    (r.reserveEach names).1.length = names.length := by
  induction names generalizing r with
  | nil => rfl
  | cons name names ih => simp [reserveEach, ih]

/-- A call answers what stands in its queue behind as many volumes as there were calls of the name
before it. -/
theorem getElem?_reserveEach (r : VolumeReservations) {names : List String} {i : Nat}
    {name : String} (h : names[i]? = some name) :
    (r.reserveEach names).1[i]? =
      some ((r.queues.listAt name)[(names.take i).count name]?) := by
  induction names generalizing r i with
  | nil => simp at h
  | cons first names ih =>
    cases i with
    | zero =>
      obtain rfl : first = name := by simpa using h
      simp [reserveEach, reserve_fst, List.head?_eq_getElem?]
    | succ i =>
      have hrest := ih (r.reserve first).2 (by simpa using h)
      simp only [reserveEach, List.getElem?_cons_succ, hrest, listAt_reserve, List.getElem?_drop,
        List.take_succ_cons, List.count_cons]
      by_cases heq : name = first
      · simp [heq, Nat.add_comm]
      · simp [heq, Ne.symm heq]

theorem answersTo_cons (name first : String) (names : List String) (answer : Option Volume)
    (answers : List (Option Volume)) :
    answersTo name (first :: names) (answer :: answers) =
      if first = name then answer :: answersTo name names answers
      else answersTo name names answers := by
  unfold answersTo
  by_cases heq : first = name
  · simp [heq]
  · simp [heq]

/-- The calls of one name go through its queue from the front. -/
theorem answersTo_reserveEach (r : VolumeReservations) (names : List String) (name : String) :
    answersTo name names (r.reserveEach names).1 =
      (List.range (names.count name)).map fun k => (r.queues.listAt name)[k]? := by
  induction names generalizing r with
  | nil => rfl
  | cons first names ih =>
    rw [reserveEach, answersTo_cons, ih, listAt_reserve, reserve_fst, List.count_cons]
    by_cases heq : name = first
    · subst heq
      simp [List.range_succ_eq_map, List.head?_eq_getElem?]
    · simp [heq, Ne.symm heq]

/-! ## What is left -/

/-- Of each queue a run leaves what is beyond the calls of its name. -/
theorem get?_reserveEach (r : VolumeReservations) (names : List String) (n : String) :
    (r.reserveEach names).2.queues.get? n =
      (r.queues.get? n).map (·.drop (names.count n)) := by
  induction names generalizing r with
  | nil => simp [reserveEach]
  | cons name names ih =>
    have hcount : (name :: names).count n = (if n = name then 1 else 0) + names.count n := by
      by_cases heq : n = name
      · simp [heq, Nat.add_comm]
      · simp [heq, Ne.symm heq]
    rw [reserveEach, ih, get?_reserve, Option.map_map, hcount]
    congr 1
    funext queue
    simp [List.drop_drop]

theorem listAt_reserveEach (r : VolumeReservations) (names : List String) (n : String) :
    (r.reserveEach names).2.queues.listAt n = (r.queues.listAt n).drop (names.count n) :=
  listAt_of_get? (get?_reserveEach r names n)

/-- In whatever order the calls come, they leave the same. -/
theorem reserveEach_perm (r : VolumeReservations) {names names' : List String}
    (h : names.Perm names') : (r.reserveEach names').2 = (r.reserveEach names).2 := by
  have hqueues : (r.reserveEach names').2.queues = (r.reserveEach names).2.queues := by
    refine TextMap.ext_get? ?_
    intro n
    rw [get?_reserveEach, get?_reserveEach, h.count_eq]
  exact congrArg VolumeReservations.mk hqueues

/-- The first elements of a list, one by one, those beyond its end being absent. -/
theorem reduceOption_map_getElem? {α : Type} (xs : List α) (n : Nat) :
    ((List.range n).map fun k => xs[k]?).reduceOption = xs.take n := by
  induction n with
  | zero => rfl
  | succ n ih =>
    rw [List.range_succ, List.map_append, List.reduceOption_append, ih, List.take_add_one]
    cases hn : xs[n]? <;> simp [hn]

/-- What was handed out of a name, and what is left of it. -/
theorem answersTo_append_left (r : VolumeReservations) (names : List String) (name : String) :
    (answersTo name names (r.reserveEach names).1).reduceOption ++
      (r.reserveEach names).2.queues.listAt name = r.queues.listAt name := by
  rw [answersTo_reserveEach, reduceOption_map_getElem?, listAt_reserveEach, List.take_append_drop]

/-! ## Figures -/

theorem mem_counts_iff {r : VolumeReservations} {name : String} {k : Nat} :
    (name, k) ∈ r.counts ↔ 0 < k ∧ r.queueLength name = k := by
  have hentry : (name, k) ∈ r.queues.entries.map (fun e => (e.1, e.2.length)) ↔
      ∃ queue, r.queues.get? name = some queue ∧ queue.length = k := by
    simp [TextMap.mem_entries_iff]
  rw [counts, List.mem_filter, hentry, queueLength, TextMap.listAt]
  cases r.queues.get? name with
  | none =>
    simp
    omega
  | some queue => simp [and_comm]

theorem counts_sorted (r : VolumeReservations) : (r.counts.map (·.1)).Pairwise (· < ·) := by
  have hsorted : (r.queues.entries.map fun e => (e.1, e.2.length)).Pairwise
      (fun a b => a.1 < b.1) := List.pairwise_map.2 r.queues.sorted
  exact List.pairwise_map.2 (hsorted.filter _)

/-- Queues that are used up add nothing to the total. -/
theorem total_eq_sum_counts (r : VolumeReservations) : r.total = (r.counts.map (·.2)).sum := by
  unfold total counts
  rw [← List.sum_eq_foldl]
  induction r.queues.entries with
  | nil => rfl
  | cons e entries ih =>
    by_cases hempty : e.2.length = 0
    · simp [hempty, ih]
    · have hpos : 0 < e.2.length := Nat.pos_of_ne_zero hempty
      simp [hpos, ih]

/-! ## Places in the list -/

/-- The volumes of a name that nothing holds, as listed. -/
def freeOf (volumes : List Volume) (name : String) : List Volume :=
  volumes.filter fun v => v.isUnattached && v.name == name

/-- The places of the free volumes of a name. -/
def freePlaces (volumes : List Volume) (name : String) : List Nat :=
  (volumes.zipIdx.filter fun e => e.1.isUnattached && e.1.name == name).map (·.2)

/-- The place of the volume that a call hands out: the first one of its name that the calls before
it have left. -/
def placeOf (volumes : List Volume) (names : List String) (i : Nat) : Option Nat :=
  names[i]?.bind fun name => (freePlaces volumes name)[(names.take i).count name]?

theorem freePlaces_sorted (volumes : List Volume) (name : String) :
    (freePlaces volumes name).Pairwise (· < ·) := by
  have hsub : (freePlaces volumes name).Sublist (volumes.zipIdx.map (·.2)) :=
    List.filter_sublist.map _
  have hplaces : (volumes.zipIdx.map (·.2)).Pairwise (· < ·) := by
    rw [List.zipIdx_map_snd]
    exact List.pairwise_lt_range'
  exact hplaces.sublist hsub

theorem mem_freePlaces_iff {volumes : List Volume} {name : String} {q : Nat} :
    q ∈ freePlaces volumes name ↔
      ∃ v, volumes[q]? = some v ∧ v.isUnattached = true ∧ v.name = name := by
  simp [freePlaces, List.mem_zipIdx_iff_getElem?]

/-- The places lead to the volumes. -/
theorem getElem?_freePlaces (volumes : List Volume) (name : String) (k : Nat) :
    (freePlaces volumes name)[k]?.bind (volumes[·]?) = (freeOf volumes name)[k]? := by
  have hmap : (freePlaces volumes name).map (volumes[·]?) = (freeOf volumes name).map some := by
    have hfree : freeOf volumes name =
        (volumes.zipIdx.filter fun e => e.1.isUnattached && e.1.name == name).map (·.1) := by
      have hfst : volumes.zipIdx.map (·.1) = volumes := List.zipIdx_map_fst 0 volumes
      conv => lhs; rw [freeOf, ← hfst, List.filter_map]
      rfl
    rw [freePlaces, hfree, List.map_map, List.map_map]
    refine List.map_congr_left ?_
    intro e he
    exact List.mem_zipIdx_iff_getElem?.1 (List.mem_of_mem_filter he)
  have hk := congrArg (·[k]?) hmap
  simp only [List.getElem?_map] at hk
  calc (freePlaces volumes name)[k]?.bind (volumes[·]?)
    _ = ((freePlaces volumes name)[k]?.map (volumes[·]?)).join := by
      cases (freePlaces volumes name)[k]? <;> rfl
    _ = ((freeOf volumes name)[k]?.map some).join := by rw [hk]
    _ = (freeOf volumes name)[k]? := by cases (freeOf volumes name)[k]? <;> rfl

theorem count_take_succ {names : List String} {name : String} {i : Nat}
    (h : names[i]? = some name) :
    (names.take (i + 1)).count name = (names.take i).count name + 1 := by
  rw [List.take_add_one, h, List.count_append]
  simp

/-- A later call of the same name has more calls of it before itself. -/
theorem count_take_lt {names : List String} {name : String} {i j : Nat} (hij : i < j)
    (hi : names[i]? = some name) : (names.take i).count name < (names.take j).count name := by
  have hnext := count_take_succ hi
  have hle : (names.take (i + 1)).count name ≤ (names.take j).count name :=
    (List.take_sublist_take_left hij).count_le name
  omega

/-- The calls of a name before some point are numbered one after the other. -/
theorem exists_call_of_lt_count {names : List String} {name : String} {i k : Nat}
    (h : k < (names.take i).count name) :
    ∃ j < i, names[j]? = some name ∧ (names.take j).count name = k := by
  induction i with
  | zero => simp at h
  | succ i ih =>
    by_cases hbefore : k < (names.take i).count name
    · obtain ⟨j, hj, hcall⟩ := ih hbefore
      exact ⟨j, by omega, hcall⟩
    · -- the calls before it do not reach so far, so that the last one is of the name
      have hlast : names[i]? = some name := by
        by_contra hother
        have hnone : names[i]?.toList.count name = 0 := by
          rw [List.count_eq_zero, Option.mem_toList]
          exact hother
        rw [List.take_add_one, List.count_append, hnone] at h
        omega
      have hnext := count_take_succ hlast
      exact ⟨i, by omega, hlast, by omega⟩

section Places

variable {volumes : List Volume} {names : List String} {i j q : Nat}

/-- A call hands out the volume at its place. -/
theorem getElem?_reserveEach_ofVolumes (hi : i < names.length) :
    ((ofVolumes volumes).reserveEach names).1[i]? =
      some ((placeOf volumes names i).bind (volumes[·]?)) := by
  have hname := List.getElem?_eq_getElem hi
  rw [getElem?_reserveEach _ hname, listAt_ofVolumes, placeOf, hname, Option.bind_some,
    getElem?_freePlaces]
  rfl

/-- What is handed out is free and has the name that was asked for. -/
theorem free_of_placeOf (h : placeOf volumes names i = some q) :
    ∃ v, volumes[q]? = some v ∧ v.isUnattached = true ∧ names[i]? = some v.name := by
  obtain ⟨name, hname, hplace⟩ := Option.bind_eq_some_iff.1 h
  obtain ⟨v, hv, hfree, rfl⟩ := mem_freePlaces_iff.1 (List.mem_of_getElem? hplace)
  exact ⟨v, hv, hfree, hname⟩

/-- No place is handed out twice. -/
theorem eq_of_placeOf (hi : placeOf volumes names i = some q)
    (hj : placeOf volumes names j = some q) : i = j := by
  obtain ⟨name, hname, hplace⟩ := Option.bind_eq_some_iff.1 hi
  obtain ⟨name', hname', hplace'⟩ := Option.bind_eq_some_iff.1 hj
  -- one place, so one volume and one name
  obtain rfl : name = name' := by
    obtain ⟨v, hv, -, rfl⟩ := mem_freePlaces_iff.1 (List.mem_of_getElem? hplace)
    obtain ⟨v', hv', -, rfl⟩ := mem_freePlaces_iff.1 (List.mem_of_getElem? hplace')
    rw [Option.some.inj (hv.symm.trans hv')]
  have hnodup : (freePlaces volumes name).Nodup :=
    (freePlaces_sorted volumes name).imp fun h => Nat.ne_of_lt h
  have hcount : (names.take i).count name = (names.take j).count name :=
    (List.getElem?_inj (List.getElem?_eq_some_iff.1 hplace).1 hnodup).1
      (hplace.trans hplace'.symm)
  rcases Nat.lt_trichotomy i j with hlt | heq | hgt
  · have hmore := count_take_lt hlt hname
    omega
  · exact heq
  · have hmore := count_take_lt hgt hname'
    omega

/-- Whatever is free and comes before the place of a call has been handed out before. -/
theorem exists_earlier_placeOf {v : Volume} (hname : names[i]? = some v.name)
    (hv : volumes[q]? = some v) (hfree : v.isUnattached = true)
    (hbefore : ∀ place, placeOf volumes names i = some place → q < place) :
    ∃ earlier < i, placeOf volumes names earlier = some q := by
  obtain ⟨k, hk⟩ := List.getElem?_of_mem (mem_freePlaces_iff.2 ⟨v, hv, hfree, rfl⟩)
  have hcount : k < (names.take i).count v.name := by
    by_contra hge
    have hsorted := freePlaces_sorted volumes v.name
    obtain ⟨hklength, hkq⟩ := List.getElem?_eq_some_iff.1 hk
    have hilength : (names.take i).count v.name < (freePlaces volumes v.name).length := by omega
    have hplace := hbefore _ (by rw [placeOf, hname]; exact List.getElem?_eq_getElem hilength)
    rcases Nat.eq_or_lt_of_le (Nat.le_of_not_lt hge) with heq | hlt
    · simp only [heq] at hplace
      omega
    · have hgreater := List.pairwise_iff_getElem.1 hsorted _ _ hilength hklength hlt
      omega
  obtain ⟨earlier, hlt, hcall, hnumber⟩ := exists_call_of_lt_count hcount
  refine ⟨earlier, hlt, ?_⟩
  rw [placeOf, hcall, Option.bind_some, hnumber, hk]

end Places

/-! ## The list and the queues -/

/-- What a run of calls on the free volumes of a list has answered and what it has left, told from
the list.  The calls up to some point are a run, too, so that this is how things stand after each of
them. -/
structure RefinesList (volumes : List Volume) (names : List String)
    (answers : List (Option Volume)) (left : VolumeReservations) : Prop where
  /-- Every call is answered. -/
  length : answers.length = names.length
  /-- The k-th call of a name answers the k-th free volume of the name, or none when there are no
  more. -/
  inOrder : ∀ name, answersTo name names answers =
    (List.range (names.count name)).map fun k => (freeOf volumes name)[k]?
  /-- A call hands out the volume at its place in the list. -/
  place : ∀ i < names.length, answers[i]? = some ((placeOf volumes names i).bind (volumes[·]?))
  /-- It is held by nothing and has the name that was asked for. -/
  free : ∀ i q, placeOf volumes names i = some q → ∃ v, volumes[q]? = some v ∧
    v.attachedMachine = none ∧ v.attachedAllocation = none ∧ names[i]? = some v.name
  once : ∀ i j q, placeOf volumes names i = some q → placeOf volumes names j = some q → i = j
  /-- A free volume before the place of a call, and every one if the call has no place, has been
  handed out to an earlier call. -/
  noneSkipped : ∀ i q v, names[i]? = some v.name → volumes[q]? = some v →
    v.isUnattached = true → (∀ place, placeOf volumes names i = some place → q < place) →
    ∃ earlier < i, placeOf volumes names earlier = some q
  /-- What was handed out of a name and what is left of it are all its free volumes. -/
  parts : ∀ name, (answersTo name names answers).reduceOption ++ left.queues.listAt name =
    freeOf volumes name
  others : ∀ name n, n ≠ name → (left.reserve name).2.queues.listAt n = left.queues.listAt n
  none : ∀ name, (left.reserve name).1 = none → (left.reserve name).2 = left
  queueLength : ∀ name, left.queueLength name +
    (answersTo name names answers).countP Option.isSome = (freeOf volumes name).length
  hasReservable : ∀ name, left.hasReservable name = true ↔ 0 < left.queueLength name
  counts_sorted : (left.counts.map (·.1)).Pairwise (· < ·)
  mem_counts : ∀ name k, (name, k) ∈ left.counts ↔ 0 < k ∧ left.queueLength name = k
  total : left.total = (left.counts.map (·.2)).sum
  /-- The same calls in another order. -/
  permuted : ∀ names', names.Perm names' →
    ((ofVolumes volumes).reserveEach names').2 = left ∧
    ∀ name, answersTo name names' ((ofVolumes volumes).reserveEach names').1 =
      answersTo name names answers

/-- Reservations from a list of volumes answer every sequence of calls, and are left by it, as the
list alone tells. -/
theorem reserveEach_refinesList (volumes : List Volume) (names : List String) :
    RefinesList volumes names ((ofVolumes volumes).reserveEach names).1
      ((ofVolumes volumes).reserveEach names).2 where
  length := length_reserveEach _ _
  inOrder name := by
    rw [answersTo_reserveEach, listAt_ofVolumes]
    rfl
  place i hi := getElem?_reserveEach_ofVolumes hi
  free i q h := by
    obtain ⟨v, hv, hfree, hname⟩ := free_of_placeOf h
    simp only [Volume.isUnattached, Bool.and_eq_true, Option.isNone_iff_eq_none] at hfree
    exact ⟨v, hv, hfree.1, hfree.2, hname⟩
  once i j q := eq_of_placeOf
  noneSkipped i q v := exists_earlier_placeOf
  parts name := by
    rw [answersTo_append_left, listAt_ofVolumes]
    rfl
  others name n hne := by rw [listAt_reserve, if_neg hne, List.drop_zero]
  none name := reserve_of_none
  queueLength name := by
    have hparts := congrArg List.length (answersTo_append_left (ofVolumes volumes) names name)
    rw [List.length_append, List.reduceOption_length_eq, ← List.countP_eq_length_filter,
      listAt_ofVolumes] at hparts
    rw [VolumeReservations.queueLength, Nat.add_comm, hparts]
    rfl
  hasReservable name := by simp [VolumeReservations.hasReservable]
  counts_sorted := VolumeReservations.counts_sorted _
  mem_counts name k := mem_counts_iff
  total := total_eq_sum_counts _
  permuted names' hperm := by
    refine ⟨reserveEach_perm _ hperm, ?_⟩
    intro name
    rw [answersTo_reserveEach, answersTo_reserveEach, hperm.count_eq]

end VolumeReservations

end Preflight
