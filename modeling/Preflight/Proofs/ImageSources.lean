import Preflight.Proofs.Action
import Preflight.Proofs.AppConfig
import Preflight.Proofs.Inventory
import Preflight.Rehearsal
import Preflight.ResolvedImage

/-!
# Where an image comes from

An image has three sources: the caller, the latest release and the machines.  The first of them that
has one decides, and a source has an image only if it is not empty.  `FollowsSources` says so for
every answer that a control plane may give to the call for the latest release, a failure among them;
`ResolvedImage.resolve_followsSources` proves it of every control plane, whatever its states are.

A control plane in general keeps no log, so the calls are counted from outside: `Logged` stands
beside a control plane and writes down what is asked of it.
-/

namespace Preflight

open Preflight.Action

/-! ## Logged control planes -/

/-- A control plane and the calls that were made of it. -/
structure Logged (σ : Type) where
  plane : σ
  /-- The calls so far, in order. -/
  calls : List Call := []

namespace Logged

variable {σ ε α : Type} [ControlPlaneClient σ]

/-- Write a call down and make it. -/
def onPlane (call : Call) (x : Action σ ε α) : Action (Logged σ) ε α :=
  ExceptT.mk fun l => ((x.from l.plane).1, ⟨(x.from l.plane).2, l.calls ++ [call]⟩)

instance : ControlPlaneClient (Logged σ) where
  listMachines app := onPlane (.listMachines app) (ControlPlaneClient.listMachines app)
  listActiveMachines app :=
    onPlane (.listActiveMachines app) (ControlPlaneClient.listActiveMachines app)
  listVolumes app := onPlane (.listVolumes app) (ControlPlaneClient.listVolumes app)
  latestReleaseImage app :=
    onPlane (.latestReleaseImage app) (ControlPlaneClient.latestReleaseImage app)
  createRelease input := onPlane (.createRelease input) (ControlPlaneClient.createRelease input)
  updateRelease id status :=
    onPlane (.updateRelease id status) (ControlPlaneClient.updateRelease id status)

theorem from_latestReleaseImage (session : ControlPlaneSession) (l : Logged σ) :
    session.latestReleaseImage.from l = ((session.latestReleaseImage.from l.plane).1,
      ⟨(session.latestReleaseImage.from l.plane).2,
        l.calls ++ [.latestReleaseImage session.app.name]⟩) := rfl

end Logged

/-! ## The sources -/

namespace ResolvedImage

variable {inventory : MachineInventory} {answer : Except ControlPlaneError (Option String)}

/-- The image that the latest release gives. -/
def released (answer : Except ControlPlaneError (Option String)) : Option String :=
  nonEmpty (answer.toOption.join)

theorem released_eq_some_iff {image : String} :
    released answer = some image ↔ answer = .ok (some image) ∧ image ≠ "" := by
  cases answer with
  | error e => simp [released, Except.toOption, nonEmpty]
  | ok latest => simp [released, Except.toOption, nonEmpty_eq_some_iff]

theorem released_eq_none_iff :
    released answer = none ↔ ∀ image, answer = .ok (some image) → image = "" := by
  rw [Option.eq_none_iff_forall_ne_some]
  simp only [ne_eq, released_eq_some_iff, not_and, Classical.not_not]

/-- Why the latest release gives no image. -/
def failure (answer : Except ControlPlaneError (Option String)) : Option ControlPlaneError :=
  match answer with
  | .error e => some e
  | .ok _ => none

/-- The answer of the control plane counts by the image that it gives, or else by its failure. -/
theorem ofAnswer_eq :
    ofAnswer inventory answer =
      match released answer with
      | some image => .ok ⟨image, .latestRelease⟩
      | none => ofInventory inventory (failure answer) := by
  cases answer with
  | error e => rfl
  | ok latest =>
    have hreleased : released (.ok latest) = nonEmpty latest := rfl
    rw [hreleased]
    rfl

variable {σ : Type} [ControlPlaneClient σ]

/-- What the resolution answers, by the answer of the control plane. -/
theorem fst_resolve (explicit : Option String) (session : ControlPlaneSession)
    (inventory : MachineInventory) (s : σ) :
    ((resolve explicit session inventory).from s).1 =
      match nonEmpty explicit with
      | some image => .ok ⟨image, .explicit⟩
      | none => ofAnswer inventory (session.latestReleaseImage.from s).1 := by
  unfold resolve
  cases nonEmpty explicit with
  | some image => rfl
  | none =>
    simp only [from_bind, from_lift, from_liftExcept]
    rfl

/-- The calls that the resolution makes. -/
theorem calls_resolve (explicit : Option String) (session : ControlPlaneSession)
    (inventory : MachineInventory) (l : Logged σ) :
    ((resolve explicit session inventory).from l).2.calls = l.calls ++
      if (nonEmpty explicit).isSome then [] else [.latestReleaseImage session.app.name] := by
  unfold resolve
  cases nonEmpty explicit with
  | some image => simp
  | none =>
    have hrun : session.latestReleaseImage.run l = session.latestReleaseImage.from l := rfl
    simp only [from_bind, from_lift, from_liftExcept]
    rw [hrun, Logged.from_latestReleaseImage]
    simp

/-- An image is taken from the first source that has one. -/
structure FollowsSources (explicit : Option String) (session : ControlPlaneSession)
    (inventory : MachineInventory) (answer : Except ControlPlaneError (Option String))
    (outcome : Except PreflightError ResolvedImage) (made : List Call) : Prop where
  /-- The caller's image is taken without a call. -/
  given : ∀ image, explicit = some image → image ≠ "" →
    outcome = .ok ⟨image, .explicit⟩ ∧ made = []
  /-- Otherwise one call is made. -/
  asked : (∀ image, explicit = some image → image = "") →
    made = [.latestReleaseImage session.app.name]
  latestRelease : (∀ image, explicit = some image → image = "") →
    ∀ image, answer = .ok (some image) → image ≠ "" → outcome = .ok ⟨image, .latestRelease⟩
  /-- Of the machines the first one with an image counts. -/
  existingMachine : (∀ image, explicit = some image → image = "") →
    (∀ image, answer = .ok (some image) → image = "") →
    ∀ before m after, inventory.machines = before ++ m :: after → (∀ k ∈ before, k.image = "") →
      m.image ≠ "" → outcome = .ok ⟨m.image, .existingMachine⟩
  /-- Without any image the failure tells why the latest release gave none. -/
  unknown : (∀ image, explicit = some image → image = "") →
    (∀ image, answer = .ok (some image) → image = "") →
    (∀ m ∈ inventory.machines, m.image = "") →
      ∃ cause, outcome = .error (.imageUnknown cause) ∧
        (PreflightError.imageUnknown cause).message =
          "could not determine the image to deploy: " ++
            match answer with
            | .error e => e.message
            | .ok _ => "no release found"
  ok_iff : (∃ image, outcome = .ok image) ↔
    (∃ image, explicit = some image ∧ image ≠ "") ∨
    (∃ image, answer = .ok (some image) ∧ image ≠ "") ∨
    ∃ m ∈ inventory.machines, m.image ≠ ""
  reference_ne : ∀ image, outcome = .ok image → image.reference ≠ ""

theorem reference_ne_of_ofAnswer {image : ResolvedImage}
    (h : ofAnswer inventory answer = .ok image) : image.reference ≠ "" := by
  rw [ofAnswer_eq] at h
  cases hreleased : released answer with
  | some reference =>
    simp only [hreleased, Except.ok.injEq] at h
    subst h
    exact (released_eq_some_iff.1 hreleased).2
  | none =>
    simp only [hreleased, ofInventory] at h
    cases hfirst : inventory.firstImage with
    | none => simp [hfirst] at h
    | some reference =>
      simp only [hfirst, Except.ok.injEq] at h
      subst h
      exact MachineInventory.ne_empty_of_firstImage hfirst

theorem exists_ofAnswer_iff :
    (∃ image, ofAnswer inventory answer = .ok image) ↔
      (∃ image, answer = .ok (some image) ∧ image ≠ "") ∨
        ∃ m ∈ inventory.machines, m.image ≠ "" := by
  rw [← MachineInventory.isSome_firstImage_iff]
  simp only [← released_eq_some_iff, ofAnswer_eq]
  cases released answer with
  | some image => simp
  | none => cases hfirst : inventory.firstImage <;> simp [ofInventory, hfirst]

/-- The message of a resolution that found no image. -/
theorem message_imageUnknown_failure (answer : Except ControlPlaneError (Option String)) :
    (PreflightError.imageUnknown (failure answer)).message =
      "could not determine the image to deploy: " ++
        match answer with
        | .error e => e.message
        | .ok _ => "no release found" := by
  cases answer <;> rfl

theorem followsSources_of_given {session : ControlPlaneSession} {reference : String}
    (hreference : reference ≠ "") :
    FollowsSources (some reference) session inventory answer (.ok ⟨reference, .explicit⟩) [] := by
  have hsome : ¬∀ image, some reference = some image → image = "" :=
    fun h => hreference (h reference rfl)
  exact {
    given := by
      rintro _ ⟨⟩ _
      exact ⟨rfl, rfl⟩
    asked := fun h => absurd h hsome
    latestRelease := fun h => absurd h hsome
    existingMachine := fun h => absurd h hsome
    unknown := fun h => absurd h hsome
    ok_iff := ⟨fun _ => .inl ⟨reference, rfl, hreference⟩, fun _ => ⟨_, rfl⟩⟩
    reference_ne := by
      rintro _ ⟨⟩
      exact hreference }

theorem followsSources_of_asked {explicit : Option String} {session : ControlPlaneSession}
    (hnone : ∀ image, explicit = some image → image = "") :
    FollowsSources explicit session inventory answer (ofAnswer inventory answer)
      [.latestReleaseImage session.app.name] where
  given image himage hne := absurd (hnone image himage) hne
  asked _ := rfl
  latestRelease := by
    intro _ image himage hne
    simp only [ofAnswer_eq, released_eq_some_iff.2 ⟨himage, hne⟩]
  existingMachine := by
    intro _ hreleased before m after hsplit hbefore hm
    simp only [ofAnswer_eq, released_eq_none_iff.2 hreleased, ofInventory,
      MachineInventory.firstImage_of_split hsplit hbefore hm]
  unknown := by
    intro _ hreleased hmachines
    refine ⟨failure answer, ?_, message_imageUnknown_failure answer⟩
    simp only [ofAnswer_eq, released_eq_none_iff.2 hreleased, ofInventory,
      MachineInventory.firstImage_eq_none_iff.2 hmachines]
  ok_iff := by
    rw [exists_ofAnswer_iff]
    refine (or_iff_right ?_).symm
    rintro ⟨image, himage, hne⟩
    exact hne (hnone image himage)
  reference_ne _ h := reference_ne_of_ofAnswer h

/-- Every control plane, in every state, is asked for the image at most once, and the sources count
in their order.  The machine for the release command is not among them. -/
theorem resolve_followsSources (explicit : Option String) (session : ControlPlaneSession)
    (inventory : MachineInventory) (s : σ) :
    let run := (resolve explicit session inventory).from (⟨s, []⟩ : Logged σ)
    FollowsSources explicit session inventory (session.latestReleaseImage.from s).1 run.1
      run.2.calls ∧
    ((resolve explicit session inventory).from s).1 = run.1 ∧
    ∀ release, ((resolve explicit session { inventory with releaseCommand := release }).from s).1 =
      run.1 := by
  intro run
  have hrun : run.1 = ((resolve explicit session inventory).from s).1 := by
    rw [fst_resolve, fst_resolve]
    rfl
  have hcalls : run.2.calls =
      if (nonEmpty explicit).isSome then [] else [.latestReleaseImage session.app.name] :=
    calls_resolve explicit session inventory ⟨s, []⟩
  rw [hrun, hcalls]
  refine ⟨?_, rfl, fun release => ?_⟩
  · rw [fst_resolve]
    cases hexplicit : nonEmpty explicit with
    | some reference =>
      obtain ⟨rfl, hreference⟩ := nonEmpty_eq_some_iff.1 hexplicit
      exact followsSources_of_given hreference
    | none => exact followsSources_of_asked (nonEmpty_eq_none_iff.1 hexplicit)
  · rw [fst_resolve, fst_resolve]
    rfl

/-- An empty image of the latest release does not count, and neither does that of the first
machine. -/
example :
    let session : ControlPlaneSession := ⟨⟨"shop", true⟩, by decide⟩
    let inventory : MachineInventory := { machines := [.started "m_1" "", .started "m_2" "shop:2"] }
    let plane : Rehearsal := { plane := .empty fun _ => "", pinnedImage := some (some "") }
    ((resolve (some "") session inventory).from plane).1 = .ok ⟨"shop:2", .existingMachine⟩ :=
  rfl

end ResolvedImage

end Preflight
