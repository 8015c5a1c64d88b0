import Preflight.DeploymentPlan
import Preflight.Proofs.Results

/-!
# What a request settles

`Brief.ofRequest` is the part of a preflight that needs no control plane.  `Brief.ofRequest_ok_iff`
describes its result field by field; the checks that leave nothing behind, the one on restarts and
the one on the release command, appear as conditions.  `Brief.exists_ofRequest_iff` says in terms
of the request when there is a result.
-/

namespace Preflight

open Result

namespace ControlPlaneSession

theorem ofApp_ok_iff {app : AppHandle} {session : ControlPlaneSession} :
    ofApp app = .ok session ↔ session.app = app := by
  unfold ofApp
  split
  · rename_i hname
    constructor
    · intro h
      cases h
    · rintro rfl
      exact absurd hname session.named
  · constructor
    · intro h
      rw [← Except.ok.inj h]
    · rintro rfl
      rfl

end ControlPlaneSession

/-! ## The deploy section -/

theorem RolloutStrategy.exists_ofName_iff {name : String} :
    (∃ strategy, ofName name = .ok strategy) ↔ name = "rolling" ∨ name = "immediate" := by
  unfold ofName
  by_cases hrolling : name = "rolling"
  · subst hrolling
    exact ⟨fun _ => .inl rfl, fun _ => ⟨.rolling, rfl⟩⟩
  · by_cases himmediate : name = "immediate"
    · subst himmediate
      exact ⟨fun _ => .inr rfl, fun _ => ⟨.immediate, rfl⟩⟩
    · have hnone : all.find? (fun s => s.name == name) = none := by
        simp [all, RolloutStrategy.name, Ne.symm hrolling, Ne.symm himmediate]
      simp [hnone, hrolling, himmediate]

namespace AppConfig

theorem exists_releaseCommandWords_iff {c : AppConfig} :
    (∃ words, c.releaseCommandWords = .ok words) ↔
      ∀ command, c.releaseCommand = some command →
        (ShellWords.split? command).isSome = true := by
  unfold releaseCommandWords
  cases c.releaseCommand with
  | none => simp
  | some command => cases h : ShellWords.split? command <;> simp [h]

theorem exists_resolveStrategy_iff {c : AppConfig} {explicit : Option String} :
    (∃ strategy, c.resolveStrategy explicit = .ok strategy) ↔
      ∀ name, (nonEmpty explicit).or c.deployStrategy = some name →
        name = "rolling" ∨ name = "immediate" := by
  unfold resolveStrategy
  cases (nonEmpty explicit).or c.deployStrategy with
  | none => simp
  | some name => simp [mapError_ok_iff, RolloutStrategy.exists_ofName_iff]

end AppConfig

/-! ## Briefs -/

/-- A brief says what each local stage has answered. -/
theorem Brief.ofRequest_ok_iff {ambient : Option AppConfig} {args : DeploymentArgs} {b : Brief} :
    Brief.ofRequest ambient args = .ok b ↔
      args.app = some b.session.app ∧
      ¬(args.restartOnly = true ∧ args.explicitImage.isSome = true) ∧
      args.overrides.resolve ambient = .ok b.config ∧
      (∃ words, b.config.releaseCommandWords = .ok words) ∧
      b.lease = LeaseTiming.resolve args.waitTimeout args.leaseTimeout ∧
      b.config.resolveStrategy args.strategy = .ok b.strategy ∧
      GuestSpec.ofToken args.vmSize = .ok b.guest := by
  obtain ⟨session, config, lease, strategy, guest⟩ := b
  unfold Brief.ofRequest
  cases happ : args.app with
  | none =>
    simp only [reduceCtorEq, false_and]
  | some app =>
    by_cases hrestart : args.restartOnly = true ∧ args.explicitImage.isSome = true
    · have hguard : (args.restartOnly && args.explicitImage.isSome) = true := by
        simpa using hrestart
      simp only [hrestart, not_true_eq_false, and_self, false_and, and_false, iff_false]
      intro h
      cases h
    · have hguard : (args.restartOnly && args.explicitImage.isSome) = false := by
        simpa using hrestart
      simp only [hguard, hrestart, bind_ok_iff, mapError_ok_iff, pure_ok_iff,
        ControlPlaneSession.ofApp_ok_iff, Brief.mk.injEq, Bool.false_eq_true, if_false]
      constructor
      · rintro ⟨_, hconfig, _, rfl, words, hwords, _, hstrategy, _, hguest, rfl, rfl, rfl, rfl, rfl⟩
        exact ⟨rfl, not_false, hconfig, ⟨words, hwords⟩, rfl, hstrategy, hguest⟩
      · rintro ⟨⟨rfl⟩, -, hconfig, ⟨words, hwords⟩, rfl, hstrategy, hguest⟩
        exact ⟨config, hconfig, session, rfl, words, hwords, strategy, hstrategy, guest, hguest,
          rfl, rfl, rfl, rfl, rfl⟩

/-- The handle of the request, if there is one, names the application. -/
def DeploymentArgs.IsFor (args : DeploymentArgs) (app : String) : Prop :=
  ∀ handle, args.app = some handle → handle.name = app

theorem DeploymentArgs.IsFor.app_name_eq {ambient : Option AppConfig} {args : DeploymentArgs}
    {app : String} (h : args.IsFor app) {b : Brief} (hb : Brief.ofRequest ambient args = .ok b) :
    b.session.app.name = app :=
  h _ (Brief.ofRequest_ok_iff.1 hb).1

/-- A request can be settled for an application and an effective configuration. -/
theorem Brief.exists_ofRequest_iff {ambient : Option AppConfig} {args : DeploymentArgs}
    {app : AppHandle} {config : AppConfig} :
    (∃ b, Brief.ofRequest ambient args = .ok b ∧ b.session.app = app ∧ b.config = config) ↔
      args.app = some app ∧ app.name ≠ "" ∧
      ¬(args.restartOnly = true ∧ args.explicitImage.isSome = true) ∧
      args.overrides.resolve ambient = .ok config ∧
      (∃ words, config.releaseCommandWords = .ok words) ∧
      (∃ strategy, config.resolveStrategy args.strategy = .ok strategy) ∧
      (∃ guest, GuestSpec.ofToken args.vmSize = .ok guest) := by
  simp only [ofRequest_ok_iff]
  constructor
  · rintro ⟨b, ⟨happ, hrestart, hconfig, hwords, -, hstrategy, hguest⟩, rfl, rfl⟩
    exact ⟨happ, b.session.named, hrestart, hconfig, hwords, ⟨_, hstrategy⟩, ⟨_, hguest⟩⟩
  · rintro ⟨happ, hnamed, hrestart, hconfig, hwords, ⟨strategy, hstrategy⟩, ⟨guest, hguest⟩⟩
    exact ⟨⟨⟨app, hnamed⟩, config, _, strategy, guest⟩,
      ⟨happ, hrestart, hconfig, hwords, rfl, hstrategy, hguest⟩, rfl, rfl⟩

/-! ## Refusals -/

/-- A failure of the preflight itself, not one of the control plane that is handed on. -/
def PreflightError.IsOwn : PreflightError → Prop
  | .backend _ => False
  | _ => True

theorem Overrides.resolve_failsOnly (o : Overrides) (ambient : Option AppConfig) :
    FailsOnly PreflightError.IsOwn (o.resolve ambient) := by
  unfold Overrides.resolve
  split
  · exact failsOnly_error trivial
  · refine failsOnly_bind (failsOnly_mapError (fun _ => trivial) _) ?_
    intro env
    exact failsOnly_bind (failsOnly_mapError (fun _ => trivial) _) fun _ => failsOnly_ok _

theorem AppConfig.releaseCommandWords_failsOnly (c : AppConfig) :
    FailsOnly PreflightError.IsOwn c.releaseCommandWords := by
  unfold AppConfig.releaseCommandWords
  split
  · exact failsOnly_ok _
  · split
    · exact failsOnly_ok _
    · exact failsOnly_error trivial

theorem AppConfig.resolveStrategy_failsOnly (c : AppConfig) (explicit : Option String) :
    FailsOnly PreflightError.IsOwn (c.resolveStrategy explicit) := by
  unfold AppConfig.resolveStrategy
  split
  · exact failsOnly_mapError (fun _ => trivial) _
  · exact failsOnly_ok _

/-- A request is refused for its own faults. -/
theorem Brief.ofRequest_failsOnly (ambient : Option AppConfig) (args : DeploymentArgs) :
    FailsOnly PreflightError.IsOwn (Brief.ofRequest ambient args) := by
  unfold Brief.ofRequest
  split
  · dsimp only
    split
    · exact failsOnly_error trivial
    refine failsOnly_bind (Overrides.resolve_failsOnly _ _) ?_
    intro config
    refine failsOnly_bind (failsOnly_mapError (fun _ => trivial) _) ?_
    intro session
    refine failsOnly_bind (AppConfig.releaseCommandWords_failsOnly _) ?_
    intro words
    refine failsOnly_bind (AppConfig.resolveStrategy_failsOnly _ _) ?_
    intro strategy
    exact failsOnly_bind (failsOnly_mapError (fun _ => trivial) _) fun guest => failsOnly_ok _
  · exact failsOnly_error trivial

end Preflight
