/-!
# Results of checks

When a composed computation succeeds: a sequence when both parts do, a list of checks when each of
them does, a check in front of others when all of them do (`guard_ok_iff`).  And how it can fail:
`FailsOnly` bounds the failures of a computation by those of its parts.  `Alike` compares two
computations that go through the same steps.
-/

namespace Preflight

namespace Result

variable {ε ε' α β : Type}

theorem bind_ok_iff {x : Except ε α} {f : α → Except ε β} {b : β} :
    x >>= f = .ok b ↔ ∃ a, x = .ok a ∧ f a = .ok b := by
  cases x with
  | error e =>
    constructor
    · intro h
      cases h
    · rintro ⟨_, ⟨⟩, _⟩
  | ok a =>
    constructor
    · intro h
      exact ⟨a, rfl, h⟩
    · rintro ⟨_, ⟨⟩, h⟩
      exact h

theorem pure_ok_iff {a b : α} : (pure a : Except ε α) = .ok b ↔ a = b :=
  Except.ok.injEq a b ▸ Iff.rfl

@[simp] theorem mapError_ok (a : α) (f : ε → ε') :
    (Except.ok a : Except ε α).mapError f = .ok a := rfl

@[simp] theorem mapError_error (e : ε) (f : ε → ε') :
    (Except.error e : Except ε α).mapError f = .error (f e) := rfl

theorem mapError_ok_iff {x : Except ε α} {f : ε → ε'} {a : α} :
    x.mapError f = .ok a ↔ x = .ok a := by
  cases x <;> simp

/-- A check that stands in front of others passes when its fault is not there. -/
theorem guard_ok_iff {p : Prop} [Decidable p] {fault : ε} {rest : Except ε α} {a : α} :
    (if p then .error fault else rest) = .ok a ↔ ¬ p ∧ rest = .ok a := by
  split <;> simp [*]

/-- And where its fault is there, it hides those of the others. -/
theorem guard_error_iff {p : Prop} [Decidable p] {fault e : ε} {rest : Except ε α} :
    (if p then .error fault else rest) = .error e ↔ p ∧ fault = e ∨ ¬ p ∧ rest = .error e := by
  split <;> simp [*]

/-- Whether a result is a success, as a value that can be computed. -/
theorem exists_ok_iff {x : Except ε α} : (∃ a, x = .ok a) ↔ x.toOption.isSome = true := by
  cases x <;> simp [Except.toOption]

theorem exists_ok_and_iff {x : Except ε α} {P : α → Prop} [DecidablePred P] :
    (∃ a, x = .ok a ∧ P a) ↔ x.toOption.any (fun a => decide (P a)) = true := by
  cases x <;> simp [Except.toOption]

/-- A list of checks succeeds when each of them does. -/
theorem forM_ok_iff {xs : List α} {check : α → Except ε Unit} :
    xs.forM check = .ok () ↔ ∀ x ∈ xs, check x = .ok () := by
  induction xs with
  | nil => simp [pure, Except.pure]
  | cons x xs ih =>
    have hstep : (x :: xs).forM check = check x >>= fun _ => xs.forM check := rfl
    rw [hstep, bind_ok_iff, List.forall_mem_cons, ih]
    exact ⟨fun ⟨_, hx, hxs⟩ => ⟨hx, hxs⟩, fun ⟨hx, hxs⟩ => ⟨_, hx, hxs⟩⟩

/-- A list of checks fails with the failure of the first check that fails. -/
theorem forM_error_iff {xs : List α} {check : α → Except ε Unit} {e : ε} :
    xs.forM check = .error e ↔
      ∃ before x after, xs = before ++ x :: after ∧ (∀ y ∈ before, check y = .ok ()) ∧
        check x = .error e := by
  induction xs with
  | nil => simp [pure, Except.pure]
  | cons head xs ih =>
    have hstep : (head :: xs).forM check = check head >>= fun _ => xs.forM check := rfl
    rw [hstep]
    cases hhead : check head with
    | error e' =>
      -- the head stops the list, so that it is the one that fails
      constructor
      · intro h
        exact ⟨[], head, xs, rfl, by simp, hhead.trans h⟩
      · rintro ⟨before, x, after, hsplit, hbefore, hx⟩
        cases before with
        | nil =>
          obtain ⟨rfl, -⟩ := List.cons.inj hsplit
          exact hhead.symm.trans hx
        | cons first before =>
          obtain ⟨rfl, -⟩ := List.cons.inj hsplit
          have hfirst := hbefore head List.mem_cons_self
          rw [hhead] at hfirst
          cases hfirst
    | ok _ =>
      constructor
      · intro h
        obtain ⟨before, x, after, rfl, hbefore, hx⟩ := ih.1 h
        refine ⟨head :: before, x, after, rfl, ?_, hx⟩
        exact List.forall_mem_cons.2 ⟨hhead, hbefore⟩
      · rintro ⟨before, x, after, hsplit, hbefore, hx⟩
        cases before with
        | nil =>
          obtain ⟨rfl, -⟩ := List.cons.inj hsplit
          rw [hhead] at hx
          cases hx
        | cons first before =>
          obtain ⟨rfl, rfl⟩ := List.cons.inj hsplit
          exact ih.2 ⟨before, x, after, rfl, (List.forall_mem_cons.1 hbefore).2, hx⟩

theorem exists_error_of_forM {xs : List α} {check : α → Except ε Unit} {e : ε}
    (h : xs.forM check = .error e) : ∃ x ∈ xs, check x = .error e := by
  obtain ⟨before, x, after, rfl, -, hx⟩ := forM_error_iff.1 h
  exact ⟨x, by simp, hx⟩

/-- Whether a step succeeds, its value left out. -/
theorem forM_map_error_iff {xs : List α} {step : α → Except ε β} {e : ε} :
    xs.forM (fun x => (step x).map fun _ => ()) = .error e ↔ xs.mapM step = .error e := by
  induction xs with
  | nil => simp [pure, Except.pure]
  | cons x xs ih =>
    have hstep : (x :: xs).forM (fun x => (step x).map fun _ => ()) =
        (step x).map (fun _ => ()) >>= fun _ => xs.forM fun x => (step x).map fun _ => () := rfl
    rw [hstep, List.mapM_cons]
    cases step x with
    | error e' => simp [bind, Except.bind, Except.map]
    | ok b =>
      have htail : (Except.map (fun _ => ()) (Except.ok b : Except ε β) >>= fun _ =>
          xs.forM fun x => (step x).map fun _ => ()) =
          xs.forM fun x => (step x).map fun _ => () := rfl
      rw [htail, ih]
      cases xs.mapM step <;> simp [bind, Except.bind, pure, Except.pure]

/-- A list of steps fails with the failure of the first step that fails. -/
theorem mapM_error_iff {xs : List α} {step : α → Except ε β} {e : ε} :
    xs.mapM step = .error e ↔
      ∃ before x after, xs = before ++ x :: after ∧ (∀ y ∈ before, ∃ b, step y = .ok b) ∧
        step x = .error e := by
  have hok : ∀ y, (step y).map (fun _ => ()) = .ok () ↔ ∃ b, step y = .ok b := by
    intro y
    cases step y <;> simp [Except.map]
  have herror : ∀ y, (step y).map (fun _ => ()) = .error e ↔ step y = .error e := by
    intro y
    cases step y <;> simp [Except.map]
  rw [← forM_map_error_iff, forM_error_iff]
  simp only [hok, herror]

/-! ## Failures -/

/-- Every failure is of this kind. -/
def FailsOnly (P : ε → Prop) (x : Except ε α) : Prop := ∀ e, x = .error e → P e

section FailsOnly

variable {P : ε → Prop}

theorem failsOnly_ok (a : α) : FailsOnly P (.ok a) := by
  intro e h
  cases h

theorem failsOnly_error {e : ε} (he : P e) : FailsOnly P (.error e : Except ε α) := by
  rintro _ ⟨⟩
  exact he

theorem FailsOnly.mono {Q : ε → Prop} {x : Except ε α} (h : FailsOnly P x)
    (hPQ : ∀ e, P e → Q e) : FailsOnly Q x := fun e he => hPQ e (h e he)

theorem failsOnly_mapError {f : ε' → ε} (hf : ∀ e, P (f e)) (x : Except ε' α) :
    FailsOnly P (x.mapError f) := by
  cases x with
  | ok a => exact failsOnly_ok a
  | error e => exact failsOnly_error (hf e)

theorem failsOnly_bind {x : Except ε α} {f : α → Except ε β} (hx : FailsOnly P x)
    (hf : ∀ a, FailsOnly P (f a)) : FailsOnly P (x >>= f) := by
  cases x with
  | ok a => exact hf a
  | error e => exact failsOnly_error (hx e rfl)

/-- A list of checks fails as one of them does. -/
theorem failsOnly_forM {xs : List α} {check : α → Except ε Unit}
    (h : ∀ x ∈ xs, FailsOnly P (check x)) : FailsOnly P (xs.forM check) := by
  induction xs with
  | nil => exact failsOnly_ok ()
  | cons x xs ih =>
    rw [List.forall_mem_cons] at h
    exact failsOnly_bind h.1 fun _ => ih h.2

end FailsOnly

/-! ## Two results side by side -/

/-- Both succeed with related values, or both fail with related failures. -/
inductive Alike (E : ε → ε → Prop) (A : α → β → Prop) : Except ε α → Except ε β → Prop where
  | ok {a : α} {b : β} (h : A a b) : Alike E A (.ok a) (.ok b)
  | error {e e' : ε} (h : E e e') : Alike E A (.error e) (.error e')

section Alike

variable {γ δ : Type} {E : ε → ε → Prop} {A : α → β → Prop} {B : γ → δ → Prop}

theorem alike_of_eq (hE : ∀ e, E e e) {A : α → α → Prop} (hA : ∀ a, A a a) {x y : Except ε α}
    (h : x = y) : Alike E A x y := by
  subst h
  cases x with
  | error e => exact .error (hE e)
  | ok a => exact .ok (hA a)

theorem Alike.mono {E' : ε → ε → Prop} {A' : α → β → Prop} {x : Except ε α} {y : Except ε β}
    (h : Alike E A x y) (hE : ∀ e e', E e e' → E' e e') (hA : ∀ a b, A a b → A' a b) :
    Alike E' A' x y := by
  cases h with
  | ok h => exact .ok (hA _ _ h)
  | error h => exact .error (hE _ _ h)

theorem alike_mapError {E' : ε' → ε' → Prop} {f : ε → ε'} {x : Except ε α} {y : Except ε β}
    (h : Alike E A x y) (hf : ∀ e e', E e e' → E' (f e) (f e')) :
    Alike E' A (x.mapError f) (y.mapError f) := by
  cases h with
  | ok h => exact .ok h
  | error h => exact .error (hf _ _ h)

theorem alike_bind {x : Except ε α} {y : Except ε β} {f : α → Except ε γ} {g : β → Except ε δ}
    (hxy : Alike E A x y) (hfg : ∀ a b, A a b → Alike E B (f a) (g b)) :
    Alike E B (x >>= f) (y >>= g) := by
  cases hxy with
  | ok h => exact hfg _ _ h
  | error h => exact .error h

/-- What follows does not tell related values apart. -/
theorem Alike.bind_eq {x : Except ε α} {y : Except ε β} {f : α → Except ε γ} {g : β → Except ε γ}
    (h : Alike Eq A x y) (hfg : ∀ a b, A a b → f a = g b) : x >>= f = y >>= g := by
  cases h with
  | ok hab => exact hfg _ _ hab
  | error he => exact congrArg _ he

theorem alike_forM {xs : List α} {check check' : α → Except ε Unit}
    (h : ∀ x ∈ xs, Alike E (fun _ _ => True) (check x) (check' x)) :
    Alike E (fun _ _ => True) (xs.forM check) (xs.forM check') := by
  induction xs with
  | nil => exact .ok trivial
  | cons x xs ih =>
    rw [List.forall_mem_cons] at h
    exact alike_bind h.1 fun _ _ _ => ih h.2

/-- The same checks in another order: both lists pass, or each fails with one of the checks. -/
theorem alike_forM_perm {xs ys : List α} {check : α → Except ε Unit} (hperm : xs.Perm ys)
    (hE : ∀ x ∈ xs, ∀ y ∈ xs, ∀ e e', check x = .error e → check y = .error e' → E e e') :
    Alike E (fun _ _ => True) (xs.forM check) (ys.forM check) := by
  have hok : xs.forM check = .ok () ↔ ys.forM check = .ok () := by
    rw [forM_ok_iff, forM_ok_iff]
    exact forall_congr' fun x => imp_congr_left hperm.mem_iff
  cases hx : xs.forM check with
  | ok _ =>
    rw [hok.1 hx]
    exact .ok trivial
  | error e =>
    cases hy : ys.forM check with
    | ok _ =>
      rw [hok.2 hy] at hx
      cases hx
    | error e' =>
      obtain ⟨x, hmem, hfails⟩ := exists_error_of_forM hx
      obtain ⟨y, hmem', hfails'⟩ := exists_error_of_forM hy
      exact .error (hE x hmem y (hperm.mem_iff.2 hmem') e e' hfails hfails')

theorem Alike.exists_ok_iff {x : Except ε α} {y : Except ε β} (h : Alike E A x y) :
    (∃ a, x = .ok a) ↔ ∃ b, y = .ok b := by
  cases h <;> simp

theorem Alike.of_ok {x : Except ε α} {y : Except ε β} (h : Alike E A x y) {a : α} {b : β}
    (hx : x = .ok a) (hy : y = .ok b) : A a b := by
  subst hx hy
  cases h with
  | ok h => exact h

theorem Alike.of_error {x : Except ε α} {y : Except ε β} (h : Alike E A x y) {e e' : ε}
    (hx : x = .error e) (hy : y = .error e') : E e e' := by
  subst hx hy
  cases h with
  | error h => exact h

end Alike

end Result

end Preflight
