import Preflight.GuestSpec
import Preflight.Proofs.Results
import Preflight.Proofs.Text

/-!
# Which sizes are accepted

A size token is accepted when it is the name of a preset: `countOfClass?_eq_some` reads a token of
one class, `ofSize_ok_iff` puts the classes together, and `ofSize_error_iff` says how every other
token is refused.
-/

namespace Preflight

theorem CpuKind.mem_all (kind : CpuKind) : kind ∈ CpuKind.all := by
  cases kind <;> decide

/-- What is to hold of every class with each of its counts can be computed. -/
theorem CpuKind.of_all_counts {p : CpuKind → UInt32 → Bool}
    (h : CpuKind.all.all (fun kind => kind.counts.all (p kind)) = true) {kind : CpuKind}
    {cpus : UInt32} (hcpus : cpus ∈ kind.counts) : p kind cpus = true :=
  List.all_eq_true.1 (List.all_eq_true.1 h kind kind.mem_all) cpus hcpus

namespace GuestSpec

/-- The digits of a token are what stands between the stem of the class and the final `x`. -/
theorem countDigits?_eq_some_iff {kind : CpuKind} {token : String} {digits : List Char} :
    countDigits? kind token = some digits ↔
      token.toList = (kind.sizeStem ++ "-").toList ++ digits ++ ['x'] := by
  unfold countDigits?
  cases hrest : dropLeading? (kind.sizeStem ++ "-").toList token.toList with
  | none =>
    simp only [Option.bind_eq_bind, Option.bind_none, reduceCtorEq, false_iff]
    intro htoken
    have hsome := dropLeading?_eq_some_iff.2 (htoken.trans (List.append_assoc _ _ _))
    rw [hrest] at hsome
    cases hsome
  | some rest =>
    have htoken := dropLeading?_eq_some_iff.1 hrest
    simp only [Option.bind_eq_bind, Option.bind_some, htoken, List.append_assoc,
      List.append_cancel_left_eq]
    constructor
    · intro h
      split at h
      · rename_i hlast
        obtain rfl := Option.some.inj h
        obtain ⟨front, rfl⟩ := List.getLast?_eq_some_iff.1 hlast
        simp
      · cases h
    · rintro rfl
      simp

/-- A token of a class is that of one of its processor counts. -/
theorem countOfClass?_eq_some {kind : CpuKind} {token : String} {cpus : UInt32}
    (h : countOfClass? kind token = some cpus) :
    cpus ∈ kind.counts ∧ token = sizeToken kind cpus := by
  simp only [countOfClass?, Option.bind_eq_bind, Option.bind_eq_some_iff] at h
  obtain ⟨digits, hdigits, hcount⟩ := h
  have hspelled : (toString cpus).toList = digits := by
    simpa using List.find?_some hcount
  refine ⟨List.mem_of_find?_eq_some hcount, ?_⟩
  rw [← String.toList_inj, countDigits?_eq_some_iff.1 hdigits, ← hspelled]
  simp [sizeToken]

theorem mem_presetNames_iff {token : String} :
    token ∈ presetNames ↔ ∃ kind : CpuKind, ∃ cpus ∈ kind.counts, token = sizeToken kind cpus := by
  unfold presetNames
  rw [List.mem_flatMap]
  constructor
  · rintro ⟨kind, -, hmem⟩
    obtain ⟨cpus, hcpus, rfl⟩ := List.mem_map.1 hmem
    exact ⟨kind, cpus, hcpus, rfl⟩
  · rintro ⟨kind, cpus, hcpus, rfl⟩
    exact ⟨kind, kind.mem_all, List.mem_map_of_mem hcpus⟩

theorem ofSize_sizeToken {kind : CpuKind} {cpus : UInt32} (h : cpus ∈ kind.counts) :
    ofSize (sizeToken kind cpus) = .ok (preset kind cpus) := by
  have hpreset := CpuKind.of_all_counts (p := fun kind cpus =>
    ofSize (sizeToken kind cpus) = .ok (preset kind cpus)) (by decide +kernel) h
  exact of_decide_eq_true hpreset

/-- A token is read as the preset that it names. -/
theorem ofSize_ok_iff {token : String} {spec : GuestSpec} :
    ofSize token = .ok spec ↔ ∃ kind : CpuKind, ∃ cpus ∈ kind.counts,
      token = sizeToken kind cpus ∧ spec = preset kind cpus := by
  constructor
  · intro h
    unfold ofSize at h
    split at h
    · rename_i found hfound
      obtain ⟨kind, -, hcount⟩ := List.exists_of_findSome?_eq_some hfound
      obtain ⟨cpus, hcpus, hpreset⟩ := Option.map_eq_some_iff.1 hcount
      obtain ⟨hmem, htoken⟩ := countOfClass?_eq_some hcpus
      exact ⟨kind, cpus, hmem, htoken, (Except.ok.inj h).symm.trans hpreset.symm⟩
    · cases h
  · rintro ⟨kind, cpus, hcpus, rfl, rfl⟩
    exact ofSize_sizeToken hcpus

/-- Exactly the names of presets are accepted. -/
theorem exists_ofSize_iff {token : String} :
    (∃ spec, ofSize token = .ok spec) ↔ token ∈ presetNames := by
  rw [mem_presetNames_iff]
  constructor
  · rintro ⟨spec, h⟩
    obtain ⟨kind, cpus, hcpus, htoken, -⟩ := ofSize_ok_iff.1 h
    exact ⟨kind, cpus, hcpus, htoken⟩
  · rintro ⟨kind, cpus, hcpus, htoken⟩
    exact ⟨preset kind cpus, ofSize_ok_iff.2 ⟨kind, cpus, hcpus, htoken, rfl⟩⟩

/-- A refusal names the token. -/
theorem ofSize_error_iff {token : String} {e : SizeError} :
    ofSize token = .error e ↔ token ∉ presetNames ∧ e = ⟨token⟩ := by
  rw [← exists_ofSize_iff]
  unfold ofSize
  split
  · simp
  · simp [eq_comm]

theorem ofToken_of_blank {t : String} (h : isBlank t = true) : ofToken (some t) = .ok none := by
  rw [ofToken, h]
  rfl

theorem ofToken_of_not_blank {t : String} (h : isBlank t = false) :
    ofToken (some t) = (ofSize t).map some := by
  rw [ofToken, h]
  rfl

/-- A caller gets an answer for no token, a blank one and the name of a preset. -/
theorem exists_ofToken_iff {token : Option String} :
    (∃ guest, ofToken token = .ok guest) ↔
      ∀ t, token = some t → isBlank t = true ∨ t ∈ presetNames := by
  cases token with
  | none => simp [ofToken]
  | some t =>
    simp only [Option.some.injEq, forall_eq']
    cases hblank : isBlank t with
    | true => simp [ofToken_of_blank hblank]
    | false =>
      rw [ofToken_of_not_blank hblank, ← exists_ofSize_iff]
      cases ofSize t <;> simp [Except.map]

/-- No guest is asked for by no token and by a blank one. -/
theorem ofToken_ok_none_iff {token : Option String} :
    ofToken token = .ok none ↔ ∀ t, token = some t → isBlank t = true := by
  cases token with
  | none => simp [ofToken]
  | some t =>
    simp only [Option.some.injEq, forall_eq']
    cases hblank : isBlank t with
    | true => simp [ofToken_of_blank hblank]
    | false =>
      rw [ofToken_of_not_blank hblank]
      cases ofSize t <;> simp [Except.map]

end GuestSpec

end Preflight
