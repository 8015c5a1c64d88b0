import Mathlib.Data.List.TakeDrop
import Mathlib.Data.List.TakeWhile
import Preflight.Text

/-!
# What readers of text find

`splitAtFirst?` and `dropLeading?` described by how the text is put together again from what they
answer.
-/

namespace Preflight

/-- A cut gives back the text around the separator, and the separator is not in the first part. -/
theorem splitAtFirst?_eq_some_iff {separator : Char} {s before after : String} :
    splitAtFirst? separator s = some (before, after) ↔
      s.toList = before.toList ++ separator :: after.toList ∧ separator ∉ before.toList := by
  unfold splitAtFirst?
  rw [List.span_eq_takeWhile_dropWhile]
  constructor
  · intro h
    have hsplit := List.takeWhile_append_dropWhile (p := (· != separator)) (l := s.toList)
    have hhead := List.head?_dropWhile_not (· != separator) s.toList
    have hmem : separator ∉ s.toList.takeWhile (· != separator) := by
      intro hmem
      simpa using List.mem_takeWhile_imp hmem
    split at h
    · cases h
    · rename_i beforeChars c afterChars heq
      obtain ⟨hbefore, hafter⟩ := Prod.mk.inj heq
      obtain ⟨rfl, rfl⟩ := Prod.mk.inj (Option.some.inj h)
      rw [hafter] at hsplit hhead
      obtain rfl : c = separator := by simpa using hhead
      rw [String.toList_ofList, String.toList_ofList, ← hbefore]
      exact ⟨hsplit.symm, hmem⟩
  · rintro ⟨hs, hnot⟩
    have hall : ∀ c ∈ before.toList, (c != separator) = true := by
      intro c hc
      have hne : c ≠ separator := by
        rintro rfl
        exact hnot hc
      simpa using hne
    rw [hs, List.takeWhile_append_of_pos hall, List.dropWhile_append_of_pos hall]
    simp

/-- What is left after a leading run is removed is the rest of the characters. -/
theorem dropLeading?_eq_some_iff {lead cs rest : List Char} :
    dropLeading? lead cs = some rest ↔ cs = lead ++ rest := by
  induction lead generalizing cs with
  | nil => simp [dropLeading?]
  | cons l lead ih =>
    cases cs with
    | nil => simp [dropLeading?]
    | cons c cs =>
      by_cases hc : l = c
      · simp [dropLeading?, hc, ih]
      · simp [dropLeading?, hc, Ne.symm hc]

end Preflight
