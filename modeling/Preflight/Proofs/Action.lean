import Mathlib.Order.Defs.Unbundled
import Preflight.ControlPlane
import Preflight.Proofs.Results

/-!
# Laws of actions

An action is known by what it answers and leaves from each state, `Action.from`.  The first
section says this of the ways in which actions are built; `from_bind` and its reading for success
and failure, `from_bind_ok_iff` and `from_bind_error_iff`, take a straight line of stages apart
from the front.

The other sections lift two kinds of facts from the calls of a control plane to whatever is built
from them.  `Keeps R` relates the state after an action to the state before it, so that a frame
condition of every call is one of every program.  `Couples R` runs two actions side by side, be it
on one kind of states or on two: from related states they give the same answer and end in related
states.  `Matches R A` is the same for actions whose answers are not the same but related by `A`.
-/

namespace Preflight

namespace Action

variable {σ ε ε' α β : Type}

/-! ## Answers and states -/

@[simp] theorem from_pure (a : α) (s : σ) : (pure a : Action σ ε α).from s = (.ok a, s) := rfl

@[simp] theorem from_get (s : σ) : (get : Action σ ε σ).from s = (.ok s, s) := rfl

@[simp] theorem from_set (s t : σ) : (set t : Action σ ε PUnit).from s = (.ok ⟨⟩, t) := rfl

@[simp] theorem from_liftExcept (r : Except ε α) (s : σ) :
    (liftExcept r : Action σ ε α).from s = (r, s) := by
  cases r <;> rfl

@[simp] theorem from_lift (m : StateM σ α) (s : σ) :
    Action.from (ExceptT.lift m : Action σ ε α) s = (.ok (m s).1, (m s).2) := rfl

@[simp] theorem from_adapt (f : ε → ε') (x : Action σ ε α) (s : σ) :
    Action.from (ExceptT.adapt f x) s = ((x.from s).1.mapError f, (x.from s).2) := rfl

theorem from_bind (x : Action σ ε α) (f : α → Action σ ε β) (s : σ) :
    (x >>= f).from s = match x.from s with
      | (.ok a, t) => (f a).from t
      | (.error e, t) => (.error e, t) := by
  show (match x s with | (r, t) => ExceptT.bindCont f r t : Except ε β × σ) = _
  unfold Action.from ExceptT.run StateT.run
  obtain ⟨_ | _, _⟩ := x s <;> rfl

/-- A sequence succeeds when both of its parts do. -/
theorem from_bind_ok_iff {x : Action σ ε α} {f : α → Action σ ε β} {s u : σ} {b : β} :
    (x >>= f).from s = (.ok b, u) ↔
      ∃ a t, x.from s = (.ok a, t) ∧ (f a).from t = (.ok b, u) := by
  rw [from_bind]
  rcases x.from s with ⟨e | a, t⟩
  · simp
  · constructor
    · intro h
      exact ⟨a, t, rfl, h⟩
    · rintro ⟨_, _, ⟨⟩, h⟩
      exact h

/-- A sequence fails where one of its parts does, and a failure of the first is final. -/
theorem from_bind_error_iff {x : Action σ ε α} {f : α → Action σ ε β} {s u : σ} {e : ε} :
    (x >>= f).from s = (.error e, u) ↔
      x.from s = (.error e, u) ∨
        ∃ a t, x.from s = (.ok a, t) ∧ (f a).from t = (.error e, u) := by
  rw [from_bind]
  rcases x.from s with ⟨e' | a, t⟩
  · simp
  · constructor
    · intro h
      exact .inr ⟨a, t, rfl, h⟩
    · rintro (⟨⟨⟩⟩ | ⟨_, _, ⟨⟩, h⟩)
      exact h

theorem from_adapt_ok_iff {f : ε → ε'} {x : Action σ ε α} {s u : σ} {a : α} :
    Action.from (ExceptT.adapt f x) s = (.ok a, u) ↔ x.from s = (.ok a, u) := by
  rw [from_adapt, Prod.mk.injEq, Result.mapError_ok_iff, ← Prod.mk.injEq]

/-! ## What an action keeps -/

/-- The state after the action is related to the one before it, whatever the answer. -/
def Keeps (R : σ → σ → Prop) (x : Action σ ε α) : Prop := ∀ s, R s (x.from s).2

section Keeps

variable {R : σ → σ → Prop} [IsPreorder σ R]

theorem keeps_pure (a : α) : Keeps R (pure a : Action σ ε α) := fun s => refl s

theorem keeps_throw (e : ε) : Keeps R (throw e : Action σ ε α) := fun s => refl s

theorem keeps_liftExcept (r : Except ε α) : Keeps R (liftExcept r : Action σ ε α) := by
  intro s
  rw [from_liftExcept]
  exact refl s

omit [IsPreorder σ R] in
theorem keeps_adapt {f : ε → ε'} {x : Action σ ε α} (hx : Keeps R x) :
    Keeps R (ExceptT.adapt f x) := hx

theorem keeps_bind {x : Action σ ε α} {f : α → Action σ ε β} (hx : Keeps R x)
    (hf : ∀ a, Keeps R (f a)) : Keeps R (x >>= f) := by
  intro s
  rw [from_bind]
  have hs := hx s
  rcases h : x.from s with ⟨e | a, t⟩
  · simpa [h] using hs
  · rw [h] at hs
    exact IsTrans.trans _ _ _ hs (hf a t)

end Keeps

/-! ## Two actions side by side -/

/-- From related states both actions give the same answer, and they end in related states. -/
def Couples {τ : Type} (R : σ → τ → Prop) (x : Action σ ε α) (y : Action τ ε α) : Prop :=
  ∀ s t, R s t → (x.from s).1 = (y.from t).1 ∧ R (x.from s).2 (y.from t).2

section Couples

variable {τ : Type} {R : σ → τ → Prop}

theorem couples_pure (a : α) : Couples R (pure a : Action σ ε α) (pure a) :=
  fun _ _ h => ⟨rfl, h⟩

theorem couples_throw (e : ε) : Couples R (throw e : Action σ ε α) (throw e) :=
  fun _ _ h => ⟨rfl, h⟩

theorem couples_liftExcept (r : Except ε α) :
    Couples R (liftExcept r : Action σ ε α) (liftExcept r) := by
  intro s t h
  simpa using h

theorem couples_adapt {f : ε → ε'} {x : Action σ ε α} {y : Action τ ε α} (h : Couples R x y) :
    Couples R (ExceptT.adapt f x) (ExceptT.adapt f y) := by
  intro s t hst
  obtain ⟨hanswer, hstate⟩ := h s t hst
  exact ⟨congrArg (Except.mapError f) hanswer, hstate⟩

/-- An action whose failure is turned into a value. -/
theorem couples_lift_run {x : Action σ ε α} {y : Action τ ε α} (h : Couples R x y) :
    Couples R (ExceptT.lift x.run : Action σ ε' (Except ε α)) (ExceptT.lift y.run) := by
  intro s t hst
  obtain ⟨hanswer, hstate⟩ := h s t hst
  exact ⟨congrArg Except.ok hanswer, hstate⟩

theorem couples_bind {x : Action σ ε α} {y : Action τ ε α} {f : α → Action σ ε β}
    {g : α → Action τ ε β} (hxy : Couples R x y) (hfg : ∀ a, Couples R (f a) (g a)) :
    Couples R (x >>= f) (y >>= g) := by
  intro s t hst
  obtain ⟨hanswer, hstate⟩ := hxy s t hst
  simp only [from_bind]
  rcases hx : x.from s with ⟨r, s'⟩
  rcases hy : y.from t with ⟨r', t'⟩
  rw [hx, hy] at hanswer hstate
  obtain rfl : r = r' := hanswer
  cases r with
  | error e => exact ⟨rfl, hstate⟩
  | ok a => exact hfg a s' t' hstate

end Couples

/-! ## Two actions whose answers differ -/

/-- From related states the actions fail alike or give related answers, and they end in related
states. -/
def Matches {τ : Type} (R : σ → τ → Prop) (A : α → β → Prop) (x : Action σ ε α)
    (y : Action τ ε β) : Prop :=
  ∀ s t, R s t → Result.Alike Eq A (x.from s).1 (y.from t).1 ∧ R (x.from s).2 (y.from t).2

section Matches

variable {τ γ δ : Type} {R : σ → τ → Prop} {A : α → β → Prop} {B : γ → δ → Prop}

theorem matches_pure {a : α} {b : β} (h : A a b) :
    Matches R A (pure a : Action σ ε α) (pure b) :=
  fun _ _ hst => ⟨.ok h, hst⟩

theorem Couples.matches {x : Action σ ε α} {y : Action τ ε α} (h : Couples R x y) :
    Matches R Eq x y := by
  intro s t hst
  obtain ⟨hanswer, hstate⟩ := h s t hst
  exact ⟨Result.alike_of_eq (fun _ => rfl) (fun _ => rfl) hanswer, hstate⟩

theorem matches_bind {x : Action σ ε α} {y : Action τ ε β} {f : α → Action σ ε γ}
    {g : β → Action τ ε δ} (hxy : Matches R A x y)
    (hfg : ∀ a b, A a b → Matches R B (f a) (g b)) : Matches R B (x >>= f) (y >>= g) := by
  intro s t hst
  obtain ⟨hanswer, hstate⟩ := hxy s t hst
  simp only [from_bind]
  rcases hx : x.from s with ⟨r, s'⟩
  rcases hy : y.from t with ⟨r', t'⟩
  rw [hx, hy] at hanswer hstate
  cases hanswer with
  | error h => exact ⟨.error h, hstate⟩
  | ok h => exact hfg _ _ h s' t' hstate

/-- What goes before is the same on both sides. -/
theorem Couples.matches_bind {x : Action σ ε α} {y : Action τ ε α} {f : α → Action σ ε γ}
    {g : α → Action τ ε δ} (hxy : Couples R x y) (hfg : ∀ a, Matches R B (f a) (g a)) :
    Matches R B (x >>= f) (y >>= g) := by
  refine Action.matches_bind hxy.matches ?_
  rintro a _ rfl
  exact hfg a

end Matches

end Action

open Preflight.Action

/-! ## The calls that read -/

section Reads

variable {σ : Type} [ControlPlaneClient σ] {R S : σ → σ → Prop} {app : String}

/-- The four calls that read what is recorded of an application keep a relation. -/
structure ReadsKeep (R : σ → σ → Prop) (app : String) : Prop where
  listMachines : Keeps R (ControlPlaneClient.listMachines app)
  listActiveMachines : Keeps R (ControlPlaneClient.listActiveMachines app)
  listVolumes : Keeps R (ControlPlaneClient.listVolumes app)
  latestReleaseImage : Keeps R (ControlPlaneClient.latestReleaseImage app)

theorem ReadsKeep.mono (h : ReadsKeep R app) (hRS : ∀ s t, R s t → S s t) : ReadsKeep S app where
  listMachines s := hRS _ _ (h.listMachines s)
  listActiveMachines s := hRS _ _ (h.listActiveMachines s)
  listVolumes s := hRS _ _ (h.listVolumes s)
  latestReleaseImage s := hRS _ _ (h.latestReleaseImage s)

/-- From related states the four reading calls answer alike. -/
structure ReadsCouple {τ : Type} [ControlPlaneClient τ] (R : σ → τ → Prop) (app : String) :
    Prop where
  listMachines : Couples R (ControlPlaneClient.listMachines app)
    (ControlPlaneClient.listMachines app)
  listActiveMachines : Couples R (ControlPlaneClient.listActiveMachines app)
    (ControlPlaneClient.listActiveMachines app)
  listVolumes : Couples R (ControlPlaneClient.listVolumes app)
    (ControlPlaneClient.listVolumes app)
  latestReleaseImage : Couples R (ControlPlaneClient.latestReleaseImage app)
    (ControlPlaneClient.latestReleaseImage app)

end Reads

end Preflight
