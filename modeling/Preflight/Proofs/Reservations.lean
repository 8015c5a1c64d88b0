import Preflight.Proofs.Results
import Preflight.Proofs.TextMap
import Preflight.ProvisionHook

/-!
# What reservations promise

Reservations are known by the length of the queue of each name.  A reservation succeeds while the
queue of its name is not empty, and shortens that queue by one (`reserve?_ok`,
`reserve?_eq_none_iff`).  A list of names is reserved exactly when no name is asked for more often
than it is queued (`reserveAll_ok_iff`), in whatever order the names come.

`ProvisionHook.OnlyReserves` are the hooks that do nothing else: they ask the control plane
nothing, and answer with what is left after some names were reserved, or with a failure.
`ProvisionHook.TriesInOrder` are those among them that try a fixed list of names, whatever they make
of a name that is not there; what they answer depends on the lengths of the queues and on nothing
else (`answerOf_alike`).
-/

namespace Preflight

namespace VolumeReservations

/-! ## One reservation -/

/-- Nothing is reserved from an empty queue. -/
theorem reserve?_eq_none_iff (r : VolumeReservations) (name : String) :
    r.reserve? name = none ↔ r.queueLength name = 0 := by
  unfold reserve? queueLength
  cases r.queues.listAt name <;> simp

/-- A reservation takes the head of its queue and leaves the others alone. -/
theorem reserve?_ok {r left : VolumeReservations} {name : String} {v : Volume}
    (h : r.reserve? name = some (v, left)) (n : String) :
    r.queues.listAt n = if n = name then v :: left.queues.listAt n else left.queues.listAt n := by
  unfold reserve? at h
  split at h
  · cases h
  · rename_i head rest hqueue
    obtain ⟨rfl, rfl⟩ := Prod.mk.inj (Option.some.inj h)
    rw [TextMap.listAt_insert]
    by_cases hn : n = name
    · rw [if_pos hn, if_pos hn, hn, hqueue]
    · rw [if_neg hn, if_neg hn]

theorem queueLength_of_reserve? {r left : VolumeReservations} {name : String} {v : Volume}
    (h : r.reserve? name = some (v, left)) (n : String) :
    r.queueLength n = left.queueLength n + if n = name then 1 else 0 := by
  unfold queueLength
  rw [reserve?_ok h n]
  split <;> simp

theorem reserve?_of_pos {r : VolumeReservations} {name : String} (h : 0 < r.queueLength name) :
    ∃ v left, r.reserve? name = some (v, left) := by
  rcases hreserve : r.reserve? name with _ | ⟨v, left⟩
  · rw [reserve?_eq_none_iff] at hreserve
    omega
  · exact ⟨v, left, rfl⟩

/-- The queue of a name holds the free volumes of the name. -/
theorem listAt_ofVolumes (volumes : List Volume) (name : String) :
    (ofVolumes volumes).queues.listAt name =
      volumes.filter fun v => v.isUnattached && v.name == name := by
  rw [ofVolumes, TextMap.listAt_groupBy, List.filter_filter]
  refine List.filter_congr ?_
  intro v _
  exact Bool.and_comm _ _

theorem queueLength_ofVolumes (volumes : List Volume) (name : String) :
    (ofVolumes volumes).queueLength name =
      volumes.countP fun v => v.isUnattached && v.name == name := by
  rw [queueLength, listAt_ofVolumes, List.countP_eq_length_filter]

end VolumeReservations

namespace ProvisionHook

open VolumeReservations

/-! ## Several reservations -/

/-- What is left after several reservations is what was not asked for. -/
theorem queueLength_of_reserveAll {names : List String} {r left : VolumeReservations}
    (h : reserveAll names r = .ok left) (n : String) :
    r.queueLength n = left.queueLength n + names.count n := by
  induction names generalizing r with
  | nil =>
    obtain rfl : r = left := by simpa [reserveAll] using h
    simp
  | cons name names ih =>
    unfold reserveAll at h
    split at h
    · rename_i v rest hreserve
      have hfirst := queueLength_of_reserve? hreserve n
      have hothers := ih h
      rw [hfirst, hothers, List.count_cons]
      by_cases hn : n = name
      · simp [hn]
        omega
      · simp [hn, Ne.symm hn]
    · cases h

/-- Names can be reserved when none of them is asked for more often than it is queued. -/
theorem reserveAll_ok_iff (names : List String) (r : VolumeReservations) :
    (∃ left, reserveAll names r = .ok left) ↔ ∀ n, names.count n ≤ r.queueLength n := by
  constructor
  · rintro ⟨left, h⟩ n
    have hlength := queueLength_of_reserveAll h n
    omega
  · intro h
    induction names generalizing r with
    | nil => exact ⟨r, rfl⟩
    | cons name names ih =>
      have hpos : 0 < r.queueLength name := by
        have hhead := h name
        rw [List.count_cons_self] at hhead
        omega
      obtain ⟨v, rest, hreserve⟩ := reserve?_of_pos hpos
      have htail : ∀ n, names.count n ≤ rest.queueLength n := by
        intro n
        have hn := h n
        have hlength := queueLength_of_reserve? hreserve n
        rw [List.count_cons] at hn
        by_cases heq : n = name
        · simp [heq] at hn hlength ⊢
          omega
        · simp [heq, Ne.symm heq] at hn hlength
          omega
      obtain ⟨left, hleft⟩ := ih rest htail
      exact ⟨left, by simp [reserveAll, hreserve, hleft]⟩

/-! ## Hooks that reserve -/

/-- The hook makes no call and does nothing but reserve names; it may fail for any reason. -/
def OnlyReserves {σ : Type} (hook : ProvisionHook σ) : Prop :=
  ∀ context, ∃ outcome, hook.provision context = pure outcome ∧
    ∀ left, outcome = .ok left → ∃ names, reserveAll names context.volumes = .ok left

/-- The hook makes no call and takes one volume of each name, in order; it fails when one is
missing, and only then. -/
def ReservesInOrder {σ : Type} (hook : ProvisionHook σ) (names : List String) : Prop :=
  ∀ context, ∃ outcome, hook.provision context = pure outcome ∧
    ∀ left, outcome = .ok left ↔ reserveAll names context.volumes = .ok left

section

variable {σ : Type}

theorem ReservesInOrder.onlyReserves {hook : ProvisionHook σ} {names : List String}
    (h : hook.ReservesInOrder names) : hook.OnlyReserves := by
  intro context
  obtain ⟨outcome, houtcome, hleft⟩ := h context
  exact ⟨outcome, houtcome, fun left hok => ⟨names, (hleft left).1 hok⟩⟩

theorem reservesInOrder_idle : (idle : ProvisionHook σ).ReservesInOrder [] :=
  fun context => ⟨.ok context.volumes, rfl, fun _ => Iff.rfl⟩

theorem onlyReserves_idle : (idle : ProvisionHook σ).OnlyReserves :=
  reservesInOrder_idle.onlyReserves

theorem reservesInOrder_reserving (name : String) (names : List String) :
    (reserving name names none : ProvisionHook σ).ReservesInOrder names := by
  intro context
  refine ⟨_, rfl, ?_⟩
  intro left
  cases reserveAll names context.volumes <;> simp [bind, Except.bind]

end

end ProvisionHook

namespace VolumeReservations

/-! ## Trying names -/

/-- Try to take one volume of each name, in order, and tell of each name whether there was one. -/
def tryEach : List String → VolumeReservations → List Bool × VolumeReservations
  | [], r => ([], r)
  | name :: names, r =>
    match r.reserve? name with
    | some (_, rest) => (true :: (tryEach names rest).1, (tryEach names rest).2)
    | none => (false :: (tryEach names r).1, (tryEach names r).2)

/-- The names that were found are reserved. -/
theorem exists_reserveAll_eq_tryEach (names : List String) (r : VolumeReservations) :
    ∃ taken, ProvisionHook.reserveAll taken r = .ok (tryEach names r).2 := by
  induction names generalizing r with
  | nil => exact ⟨[], rfl⟩
  | cons name names ih =>
    rcases hreserve : r.reserve? name with _ | ⟨v, rest⟩
    · simp only [tryEach, hreserve]
      exact ih r
    · obtain ⟨taken, htaken⟩ := ih rest
      exact ⟨name :: taken, by simpa [ProvisionHook.reserveAll, tryEach, hreserve] using htaken⟩

/-- Both have equally many free volumes of each name. -/
def SameLengths (r r' : VolumeReservations) : Prop :=
  ∀ name, r'.queueLength name = r.queueLength name

/-- Which names are found is told by the lengths of the queues. -/
theorem SameLengths.tryEach {r r' : VolumeReservations} (h : r.SameLengths r')
    (names : List String) :
    (r'.tryEach names).1 = (r.tryEach names).1 ∧
      (r.tryEach names).2.SameLengths (r'.tryEach names).2 := by
  induction names generalizing r r' with
  | nil => exact ⟨rfl, h⟩
  | cons name names ih =>
    by_cases hempty : r.queueLength name = 0
    · have hnone : r.reserve? name = none := (r.reserve?_eq_none_iff name).2 hempty
      have hnone' : r'.reserve? name = none := by
        rw [reserve?_eq_none_iff, h name]
        exact hempty
      simp only [VolumeReservations.tryEach, hnone, hnone', ih h, and_self]
    · have hpos : 0 < r.queueLength name := Nat.pos_of_ne_zero hempty
      have hpos' : 0 < r'.queueLength name := by rwa [h name]
      obtain ⟨v, rest, hsome⟩ := reserve?_of_pos hpos
      obtain ⟨v', rest', hsome'⟩ := reserve?_of_pos hpos'
      have hrest : rest.SameLengths rest' := by
        intro n
        have hn := queueLength_of_reserve? hsome n
        have hn' := queueLength_of_reserve? hsome' n
        have hsame := h n
        omega
      simp only [VolumeReservations.tryEach, hsome, hsome', ih hrest, and_self]

end VolumeReservations

namespace ProvisionHook

open VolumeReservations

/-- What a hook answers that decides by what it found. -/
def answerOf (verdict : List Bool → Option String) (tried : List Bool × VolumeReservations) :
    Except String VolumeReservations :=
  match verdict tried.1 with
  | some reason => .error reason
  | none => .ok tried.2

theorem answerOf_alike {r r' : VolumeReservations} (h : r.SameLengths r') (names : List String)
    (verdict : List Bool → Option String) :
    Result.Alike Eq SameLengths (answerOf verdict (r.tryEach names))
      (answerOf verdict (r'.tryEach names)) := by
  obtain ⟨hfound, hleft⟩ := h.tryEach names
  unfold answerOf
  rw [hfound]
  cases verdict (r.tryEach names).1 with
  | some reason => exact .error rfl
  | none => exact .ok hleft

/-- The hook makes no call and tries to take one volume of each name, in order; what it found
decides whether it fails, and for which reason. -/
def TriesInOrder {σ : Type} (hook : ProvisionHook σ) (names : List String) : Prop :=
  ∃ verdict, ∀ context,
    hook.provision context = pure (answerOf verdict (tryEach names context.volumes))

section

variable {σ : Type}

theorem TriesInOrder.onlyReserves {hook : ProvisionHook σ} {names : List String}
    (h : hook.TriesInOrder names) : hook.OnlyReserves := by
  obtain ⟨verdict, hverdict⟩ := h
  intro context
  refine ⟨_, hverdict context, ?_⟩
  intro left hleft
  obtain ⟨taken, htaken⟩ := exists_reserveAll_eq_tryEach names context.volumes
  unfold answerOf at hleft
  split at hleft
  · cases hleft
  · obtain rfl := Except.ok.inj hleft
    exact ⟨taken, htaken⟩

theorem triesInOrder_idle : (idle : ProvisionHook σ).TriesInOrder [] :=
  ⟨fun _ => none, fun _ => rfl⟩

/-- The first of the names that was not found. -/
def firstMissing (names : List String) (found : List Bool) : Option String :=
  ((names.zip found).find? fun tried => !tried.2).map (·.1)

/-- Whether all names can be reserved is settled once each of them was tried. -/
theorem reserveAll_eq_tryEach (names : List String) (r : VolumeReservations) :
    reserveAll names r =
      match firstMissing names (tryEach names r).1 with
      | some name => .error ("no volume named " ++ name)
      | none => .ok (tryEach names r).2 := by
  induction names generalizing r with
  | nil => rfl
  | cons name names ih =>
    rcases hreserve : r.reserve? name with _ | ⟨v, rest⟩
    · simp [reserveAll, tryEach, firstMissing, hreserve]
    · simp only [reserveAll, tryEach, hreserve, ih]
      rfl

/-- A hook that reserves names and may then fail. -/
theorem triesInOrder_reserving (name : String) (names : List String) (failure : Option String) :
    (reserving name names failure : ProvisionHook σ).TriesInOrder names := by
  refine ⟨fun found => ((firstMissing names found).map ("no volume named " ++ ·)).or failure, ?_⟩
  intro context
  simp only [reserving, answerOf, reserveAll_eq_tryEach]
  cases firstMissing names (tryEach names context.volumes).1 with
  | some missing => rfl
  | none => cases failure <;> rfl

end

end ProvisionHook

end Preflight
