import Preflight.Proofs.Success

/-!
# The refusal of unmanaged machines

The survey decides by one listing and counts by another.  The first has the managed machines that
are alive, with one for the release command apart; the second has everything that is alive except
what is for the release command.  The two fit because the ordinary machines of the first are the
managed ones of the second (`InMemoryPlane.listingOf_machinesOf`): the second is asked only when it
has no managed machine, so that all that is counted is unmanaged.

`SurveyExact` says when the survey refuses, and what it answers otherwise, in terms of the machines
as they are recorded.
-/

namespace Preflight

namespace InMemoryPlane

variable {p : InMemoryPlane}

/-! ## Machines as recorded -/

theorem mem_ordinary_iff {app : String} {m : Machine} :
    m ∈ p.ordinary app ↔
      m ∈ p.machinesOf app ∧ m.isActive = true ∧ m.isReleaseCommand = false := by
  simp [ordinary, Machine.isReleaseCommand]

theorem ordinary_ne_nil_iff {app : String} :
    p.ordinary app ≠ [] ↔
      ∃ m ∈ p.machinesOf app, m.isActive = true ∧ m.isReleaseCommand = false := by
  rw [← List.isEmpty_eq_false_iff, List.isEmpty_eq_false_iff_exists_mem]
  simp only [mem_ordinary_iff]

theorem length_ordinary (p : InMemoryPlane) (app : String) :
    (p.ordinary app).length =
      (p.machinesOf app).countP fun m => m.isActive && !m.isReleaseCommand :=
  List.countP_eq_length_filter.symm

/-- Where no ordinary machine is managed, all of them are counted as unmanaged. -/
theorem length_ordinary_of_unmanaged {app : String}
    (h : ∀ m ∈ p.ordinary app, m.isManaged = false) :
    (p.ordinary app).length =
      (p.machinesOf app).countP fun m => m.isActive && !m.isManaged && !m.isReleaseCommand := by
  rw [length_ordinary]
  refine List.countP_congr ?_
  intro m hm
  by_cases hordinary : m.isActive = true ∧ m.isReleaseCommand = false
  · have hunmanaged := h m (mem_ordinary_iff.2 ⟨hm, hordinary⟩)
    simp [hordinary.1, hordinary.2, hunmanaged]
  · simp only [Bool.and_eq_true, Bool.not_eq_true', hordinary, false_iff]
    exact fun hcounted => hordinary ⟨hcounted.1.1, hcounted.2⟩

/-- The two parts of the listing, each told from the machines by one condition. -/
theorem listingOf_eq (machines : List Machine) :
    listingOf machines =
      ⟨machines.filter fun m => m.isActive && m.isManaged && !m.isReleaseCommand,
        machines.find? fun m => m.isActive && m.isManaged && m.isReleaseCommand⟩ := by
  rw [listingOf, List.filter_filter, List.find?_filter]
  congr 2
  · funext m
    rw [Bool.and_comm, Bool.and_comm m.isManaged]
  · funext m
    simp [Bool.and_comm m.isManaged]

/-! ## The survey -/

/-- What the survey of an application answers. -/
structure SurveyExact (p : InMemoryPlane) (session : ControlPlaneSession)
    (answer : Except PreflightError MachineInventory) : Prop where
  /-- It refuses when there are ordinary machines and none of them is managed. -/
  refused_iff : ∀ count, answer = .error (.unmanagedMachines count) ↔
    (∃ m ∈ p.machinesOf session.app.name, m.isActive = true ∧ m.isReleaseCommand = false) ∧
    (∀ m ∈ p.machinesOf session.app.name, m.isActive = true → m.isReleaseCommand = false →
      m.isManaged = false) ∧
    count = (p.machinesOf session.app.name).countP fun m => m.isActive && !m.isReleaseCommand
  /-- What it has counted are the unmanaged ones. -/
  unmanaged : ∀ count, answer = .error (.unmanagedMachines count) →
    count = (p.machinesOf session.app.name).countP fun m =>
      m.isActive && !m.isManaged && !m.isReleaseCommand
  /-- In every other case it answers with the managed machines, as recorded. -/
  answered : (∀ count, answer ≠ .error (.unmanagedMachines count)) → ∃ inventory,
    answer = .ok inventory ∧
    inventory.machines = ((p.machinesOf session.app.name).filter fun m =>
      m.isActive && m.isManaged && !m.isReleaseCommand) ∧
    inventory.releaseCommand = (p.machinesOf session.app.name).find? fun m =>
      m.isActive && m.isManaged && m.isReleaseCommand
  /-- The ordinary machines of the first listing are in the second, in the same order. -/
  listings : ∃ listing active, (session.listMachines.from p).1 = .ok listing ∧
    (session.listActiveMachines.from p).1 = .ok active ∧ listing.machines.Sublist active

section Clear

variable (hclear : ∀ op, p.failures op = none)
include hclear

theorem surveyed_error_of_clear {session : ControlPlaneSession} (config : AppConfig)
    (hne : p.ordinary session.app.name ≠ [])
    (hunmanaged : ∀ m ∈ p.ordinary session.app.name, m.isManaged = false) :
    p.surveyed session config =
      .error (.unmanagedMachines (p.ordinary session.app.name).length) := by
  have hnone : (listingOf (p.machinesOf session.app.name)).machines.isEmpty = true := by
    rw [listingOf_machinesOf, List.isEmpty_iff, List.filter_eq_nil_iff]
    intro m hm
    simp [hunmanaged m hm]
  have hactive : activeOf (p.machinesOf session.app.name) = p.ordinary session.app.name := rfl
  have hsome : (p.ordinary session.app.name).isEmpty = false := List.isEmpty_eq_false_iff.2 hne
  simp [surveyed, unlessFailing_of_none (hclear _), bind, Except.bind, hnone, hactive, hsome,
    throw, throwThe, MonadExceptOf.throw]

/-- The survey fails for no other reason. -/
theorem surveyed_ok_of_clear {session : ControlPlaneSession} (config : AppConfig)
    (h : ¬(p.ordinary session.app.name ≠ [] ∧
      ∀ m ∈ p.ordinary session.app.name, m.isManaged = false)) :
    p.surveyed session config =
      .ok (.ofListing (listingOf (p.machinesOf session.app.name)) config.defaultGroup) := by
  refine (surveyed_ok_iff_of_clear hclear).2 ⟨?_, rfl⟩
  by_cases hnil : p.ordinary session.app.name = []
  · exact .inr hnil
  · left
    by_contra hnone
    refine h ⟨hnil, ?_⟩
    intro m hm
    rw [← Bool.not_eq_true]
    exact fun hmanaged => hnone ⟨m, hm, hmanaged⟩

theorem listings_of_clear (session : ControlPlaneSession) :
    ∃ listing active, (session.listMachines.from p).1 = .ok listing ∧
      (session.listActiveMachines.from p).1 = .ok active ∧
      listing.machines.Sublist active := by
  refine ⟨listingOf (p.machinesOf session.app.name), p.ordinary session.app.name, ?_, ?_, ?_⟩
  · rw [ControlPlaneSession.listMachines, from_listMachines, unlessFailing_of_none (hclear _)]
  · rw [ControlPlaneSession.listActiveMachines, from_listActiveMachines,
      unlessFailing_of_none (hclear _)]
    rfl
  · rw [listingOf_machinesOf]
    exact List.filter_sublist

/-- The survey refuses exactly when there is something alive and nobody manages it, and counts
it. -/
theorem survey_exact (session : ControlPlaneSession) (config : AppConfig) :
    SurveyExact p session ((MachineInventory.survey session config).from p).1 := by
  have hanswer : ((MachineInventory.survey session config).from p).1 =
      p.surveyed session config :=
    ((makes_survey session config).answers p (.refl p)).1
  have hall : (∀ m ∈ p.machinesOf session.app.name, m.isActive = true →
      m.isReleaseCommand = false → m.isManaged = false) ↔
      ∀ m ∈ p.ordinary session.app.name, m.isManaged = false := by
    simp only [mem_ordinary_iff, and_imp]
  rw [hanswer]
  by_cases hrefused : p.ordinary session.app.name ≠ [] ∧
      ∀ m ∈ p.ordinary session.app.name, m.isManaged = false
  · rw [surveyed_error_of_clear hclear config hrefused.1 hrefused.2]
    exact {
      refused_iff := by
        intro count
        rw [← ordinary_ne_nil_iff, hall, ← length_ordinary]
        constructor
        · rintro ⟨⟩
          exact ⟨hrefused.1, hrefused.2, rfl⟩
        · rintro ⟨-, -, rfl⟩
          rfl
      unmanaged := by
        rintro _ ⟨⟩
        exact length_ordinary_of_unmanaged hrefused.2
      answered := fun hother => absurd rfl (hother _)
      listings := listings_of_clear hclear session }
  · rw [surveyed_ok_of_clear hclear config hrefused, listingOf_eq]
    exact {
      refused_iff := by
        intro count
        rw [← ordinary_ne_nil_iff, hall]
        constructor
        · rintro ⟨⟩
        · rintro ⟨hne, hunmanaged, -⟩
          exact absurd ⟨hne, hunmanaged⟩ hrefused
      unmanaged := by rintro _ ⟨⟩
      answered := fun _ => ⟨_, rfl, rfl, rfl⟩
      listings := listings_of_clear hclear session }

end Clear

/-- Two machines that nobody manages, among others that are not ordinary: a managed one that was
destroyed, an unmanaged one for the release command, and two managed ones for it. -/
def strayShop : InMemoryPlane :=
  let release (id : String) := (Machine.started id "shop:1").managed Machine.releaseCommandGroup
  [.started "m_1" "shop:1",
    { (Machine.started "m_2" "shop:1").managed "web" with state := "destroyed" },
    { Machine.started "m_3" "shop:1" with
      metadata := .ofList [(Machine.processGroupKey, Machine.releaseCommandGroup)] },
    release "m_4", release "m_5", .started "m_6" "shop:1"].foldl (·.addMachine "shop" ·)
    (.empty tallyId)

/-- With one managed machine more the survey no longer refuses. -/
theorem strayShop_survey_exact :
    let session : ControlPlaneSession := ⟨⟨"shop", false⟩, by decide⟩
    let joined := strayShop.addMachine "shop" ((Machine.started "m_7" "shop:1").managed "web")
    (∀ op, strayShop.failures op = none) ∧ (∀ op, joined.failures op = none) ∧
    ((MachineInventory.survey session .shop).from strayShop).1 =
      .error (.unmanagedMachines 2) ∧
    ∃ inventory, ((MachineInventory.survey session .shop).from joined).1 = .ok inventory ∧
      inventory.machines.map (·.id) = ["m_7"] ∧
      inventory.releaseCommand.map (·.id) = some "m_4" := by
  intro session joined
  have hclear : ∀ op, strayShop.failures op = none := fun _ => rfl
  have hclear' : ∀ op, joined.failures op = none := fun _ => rfl
  have hrefuses := survey_exact hclear session .shop
  have hanswers := survey_exact hclear' session .shop
  obtain ⟨inventory, hinventory, hmachines, hrelease⟩ := hanswers.answered (by
    intro count hcount
    have hall := ((hanswers.refused_iff count).1 hcount).2.1
    exact absurd hall (by decide +kernel))
  refine ⟨hclear, hclear', (hrefuses.refused_iff 2).2 (by decide +kernel), inventory, hinventory,
    ?_, ?_⟩
  · rw [hmachines]
    decide +kernel
  · rw [hrelease]
    decide +kernel

end InMemoryPlane

end Preflight
