import Preflight.CommandLine.Run
import Preflight.Proofs.AppConfig
import Preflight.Proofs.GuestSpec
import Preflight.Proofs.Runs

/-!
# Flags with empty values

A flag can be given the empty text.  The request keeps it, and the functions that read the request
take it for absent: `DeploymentArgs.AsksSame` says which differences between two requests they do
not see, and `AsksSame.prepare_eq` that the plans, or the failures, are then the same.

So an empty image, region or application name is the same as none.  A strategy and a machine size
can have a default in the settings, which counts only where the flag is not given; there an empty
text does count, as the way to have neither flag nor default.  `rehearse_leavesOutEmpty` says both,
and `empty_strategy_sets_default_aside` that leaving the flag out can bring the default back.
-/

namespace Preflight

open Result

/-! ## Requests for the same -/

/-- The requests differ at most in texts that do not count. -/
structure DeploymentArgs.AsksSame (args args' : DeploymentArgs) : Prop where
  image : args'.explicitImage = args.explicitImage
  strategy : nonEmpty args'.strategy = nonEmpty args.strategy
  guest : GuestSpec.ofToken args'.vmSize = GuestSpec.ofToken args.vmSize
  region : nonEmpty args'.overrides.primaryRegion = nonEmpty args.overrides.primaryRegion
  appName : nonEmpty args'.overrides.appName = nonEmpty args.overrides.appName
  env : args'.overrides.env = args.overrides.env
  others : ∃ image strategy overrides vmSize,
    args' = { args with image, strategy, overrides, vmSize }

namespace DeploymentArgs.AsksSame

variable {args args' : DeploymentArgs}

theorem rest (h : AsksSame args args') : args' = { args with
    image := args'.image, strategy := args'.strategy, overrides := args'.overrides,
    vmSize := args'.vmSize } := by
  obtain ⟨_, _, _, _, rfl⟩ := h.others
  rfl

theorem resolve_eq (h : AsksSame args args') (ambient : Option AppConfig) :
    args'.overrides.resolve ambient = args.overrides.resolve ambient := by
  cases ambient with
  | none => rfl
  | some c =>
    have hmerge : ∀ env, args'.overrides.merge env c = args.overrides.merge env c := by
      intro env
      rw [Overrides.merge, Overrides.merge, h.region, h.appName]
    simp only [Overrides.resolve, h.env, hmerge]

theorem ofRequest_eq (h : AsksSame args args') (ambient : Option AppConfig) :
    Brief.ofRequest ambient args' = Brief.ofRequest ambient args := by
  have hstrategy : ∀ c : AppConfig,
      c.resolveStrategy args'.strategy = c.resolveStrategy args.strategy := by
    intro c
    rw [AppConfig.resolveStrategy, AppConfig.resolveStrategy, h.strategy]
  have happ : args'.app = args.app := congrArg (·.app) h.rest
  have hrestart : args'.restartOnly = args.restartOnly := congrArg (·.restartOnly) h.rest
  have hwait : args'.waitTimeout = args.waitTimeout := congrArg (·.waitTimeout) h.rest
  have hlease : args'.leaseTimeout = args.leaseTimeout := congrArg (·.leaseTimeout) h.rest
  simp only [Brief.ofRequest, happ, hrestart, hwait, hlease, h.image, h.resolve_eq ambient,
    hstrategy, h.guest]

/-- They make the same plan, or fail alike, and make the same calls. -/
theorem prepare_eq {σ : Type} [ControlPlaneClient σ] (h : AsksSame args args')
    (hook : ProvisionHook σ) (ambient : Option AppConfig) :
    DeploymentPlan.prepare hook ambient args' = DeploymentPlan.prepare hook ambient args := by
  have hskip : args'.skipHealthChecks = args.skipHealthChecks :=
    congrArg (·.skipHealthChecks) h.rest
  have hrestart : args'.restartOnly = args.restartOnly := congrArg (·.restartOnly) h.rest
  simp only [DeploymentPlan.prepare, h.ofRequest_eq ambient, h.image, hskip, hrestart]

end DeploymentArgs.AsksSame

namespace CommandLine

/-! ## Flags left out -/

/-- A value is kept, unless it is empty: then it may be left out. -/
def LeavesOutEmpty (given kept : Option String) : Prop :=
  kept = given ∨ given = some "" ∧ kept = none

namespace LeavesOutEmpty

variable {given kept : Option String}

/-- To whom empty values count as absent it is all the same. -/
theorem apply_eq {β : Type} {f : Option String → β} (hf : f (some "") = f none)
    (h : LeavesOutEmpty given kept) : f kept = f given := by
  rcases h with rfl | ⟨rfl, rfl⟩
  · rfl
  · exact hf.symm

/-- With a default behind it: what is left out must not bring up one that counts. -/
theorem or_eq {β : Type} {f : Option String → β} (hf : f (some "") = f none)
    (h : LeavesOutEmpty given kept) {default default' : Option String}
    (hkept : kept = given → default' = default) (hleft : kept ≠ given → f default' = f none) :
    f (kept.or default') = f (given.or default) := by
  rcases h with rfl | ⟨rfl, rfl⟩
  · rw [hkept rfl]
  · have hdefault : f default' = f none := hleft (by simp)
    rw [Option.none_or, Option.some_or, hdefault, hf]

end LeavesOutEmpty

/-- Of the flags that have empty values some are left out. -/
structure PreflightFlags.LeavesOutEmpty (flags kept : PreflightFlags) : Prop where
  image : CommandLine.LeavesOutEmpty flags.image kept.image
  strategy : CommandLine.LeavesOutEmpty flags.strategy kept.strategy
  region : CommandLine.LeavesOutEmpty flags.region kept.region
  app : CommandLine.LeavesOutEmpty flags.app kept.app
  vmSize : CommandLine.LeavesOutEmpty flags.vmSize kept.vmSize
  others : ∃ image strategy region app vmSize,
    kept = { flags with image, strategy, region, app, vmSize }

theorem PreflightFlags.LeavesOutEmpty.rest {flags kept : PreflightFlags}
    (h : flags.LeavesOutEmpty kept) : kept = { flags with
      image := kept.image, strategy := kept.strategy, region := kept.region, app := kept.app,
      vmSize := kept.vmSize } := by
  obtain ⟨_, _, _, _, _, rfl⟩ := h.others
  rfl

/-- The defaults agree but for those of flags that are left out, which do not count. -/
structure SameDefaults (flags kept : PreflightFlags) (defaults defaults' : FlagDefaults) :
    Prop where
  waitTimeout : defaults'.waitTimeout = defaults.waitTimeout
  leaseTimeout : defaults'.leaseTimeout = defaults.leaseTimeout
  strategy : kept.strategy = flags.strategy → defaults'.strategy = defaults.strategy
  strategyLeft : kept.strategy ≠ flags.strategy → nonEmpty defaults'.strategy = none
  vmSize : kept.vmSize = flags.vmSize → defaults'.vmSize = defaults.vmSize
  vmSizeLeft : kept.vmSize ≠ flags.vmSize → GuestSpec.ofToken defaults'.vmSize = .ok none

/-- The duration of a flag, or else the default. -/
def durationOr (flag : Option Duration)
    (default : Except DurationSettingError (Option Duration)) :
    Except DurationSettingError (Option Duration) :=
  match flag with
  | some d => .ok (some d)
  | none => default

/-- The request of flags whose durations are known. -/
def PreflightFlags.request (flags : PreflightFlags) (defaults : FlagDefaults) (app : AppHandle)
    (waitTimeout leaseTimeout : Option Duration) : DeploymentArgs where
  app := some app
  image := flags.image
  strategy := flags.strategy.or defaults.strategy
  overrides := { env := flags.env, primaryRegion := flags.region, appName := flags.app }
  skipHealthChecks := flags.skipHealthChecks
  restartOnly := flags.restartOnly
  waitTimeout := waitTimeout
  leaseTimeout := leaseTimeout
  vmSize := flags.vmSize.or defaults.vmSize

theorem toArgs_eq (flags : PreflightFlags) (defaults : FlagDefaults) (app : AppHandle) :
    flags.toArgs defaults app = do
      let waitTimeout ← durationOr flags.waitTimeout defaults.waitDuration
      let leaseTimeout ← durationOr flags.leaseTimeout defaults.leaseDuration
      return flags.request defaults app waitTimeout leaseTimeout := by
  unfold PreflightFlags.toArgs
  cases flags.waitTimeout <;> cases flags.leaseTimeout <;> rfl

section Rehearsals

variable {flags kept : PreflightFlags} (h : flags.LeavesOutEmpty kept)
include h

theorem request_asksSame {defaults defaults' : FlagDefaults}
    (hdefaults : SameDefaults flags kept defaults defaults') (app : AppHandle)
    (waitTimeout leaseTimeout : Option Duration) :
    (flags.request defaults app waitTimeout leaseTimeout).AsksSame
      (kept.request defaults' app waitTimeout leaseTimeout) where
  image := h.image.apply_eq (f := nonEmpty) rfl
  strategy := h.strategy.or_eq (f := nonEmpty) rfl hdefaults.strategy hdefaults.strategyLeft
  guest := h.vmSize.or_eq (f := GuestSpec.ofToken) rfl hdefaults.vmSize hdefaults.vmSizeLeft
  region := h.region.apply_eq (f := nonEmpty) rfl
  appName := h.app.apply_eq (f := nonEmpty) rfl
  env := congrArg (·.env) h.rest
  others := by
    obtain ⟨_, _, _, _, _, rfl⟩ := h.others
    exact ⟨_, _, _, _, rfl⟩

theorem toArgs_alike {defaults defaults' : FlagDefaults}
    (hdefaults : SameDefaults flags kept defaults defaults') (app : AppHandle) :
    Alike Eq DeploymentArgs.AsksSame (flags.toArgs defaults app) (kept.toArgs defaults' app) := by
  have hwait : durationOr kept.waitTimeout defaults'.waitDuration =
      durationOr flags.waitTimeout defaults.waitDuration := by
    have hflag : kept.waitTimeout = flags.waitTimeout := congrArg (·.waitTimeout) h.rest
    rw [hflag, FlagDefaults.waitDuration, FlagDefaults.waitDuration, hdefaults.waitTimeout]
  have hlease : durationOr kept.leaseTimeout defaults'.leaseDuration =
      durationOr flags.leaseTimeout defaults.leaseDuration := by
    have hflag : kept.leaseTimeout = flags.leaseTimeout := congrArg (·.leaseTimeout) h.rest
    rw [hflag, FlagDefaults.leaseDuration, FlagDefaults.leaseDuration, hdefaults.leaseTimeout]
  rw [toArgs_eq, toArgs_eq, hwait, hlease]
  cases durationOr flags.waitTimeout defaults.waitDuration with
  | error e => exact .error rfl
  | ok waitTimeout =>
    cases durationOr flags.leaseTimeout defaults.leaseDuration with
    | error e => exact .error rfl
    | ok leaseTimeout => exact .ok (request_asksSame h hdefaults app waitTimeout leaseTimeout)

/-- The plan is the same, or the failure. -/
theorem rehearse_eq {settings settings' : Settings}
    (hdefaults : SameDefaults flags kept settings.defaults settings'.defaults)
    (newId : UInt64 → String) (config : AppConfig) (snapshot : Snapshot) :
    rehearse newId flags settings config snapshot =
      rehearse newId kept settings' config snapshot := by
  cases happ : snapshot.app with
  | none => simp only [rehearse, happ]
  | some app =>
    have hargs : Alike Eq DeploymentArgs.AsksSame
        ((flags.toArgs settings.defaults app).mapError CommandError.duration)
        ((kept.toArgs settings'.defaults app).mapError CommandError.duration) :=
      alike_mapError (toArgs_alike h hdefaults app) fun _ _ => congrArg _
    simp only [rehearse, happ]
    refine bind_congr fun plane => hargs.bind_eq ?_
    intro args args' hsame
    rw [hsame.prepare_eq]

/-- What a preflight prints, in any surroundings, when no flag with a default is left out. -/
theorem execute_eq (hstrategy : kept.strategy = flags.strategy)
    (hvmSize : kept.vmSize = flags.vmSize) {m : Type → Type} [Monad m]
    (readFile : String → m (Except ReadError String)) (newId : UInt64 → String)
    (env : List (String × String)) (globals : GlobalFlags) :
    execute readFile newId env globals (.preflight flags) =
      execute readFile newId env globals (.preflight kept) := by
  have hrehearse : ∀ settings config snapshot, rehearse newId flags settings config snapshot =
      rehearse newId kept settings config snapshot := by
    intro settings config snapshot
    exact rehearse_eq h {
      waitTimeout := rfl
      leaseTimeout := rfl
      strategy := fun _ => rfl
      strategyLeft := fun hne => absurd hstrategy hne
      vmSize := fun _ => rfl
      vmSizeLeft := fun hne => absurd hvmSize hne } newId config snapshot
  have happConfig : kept.appConfig = flags.appConfig := congrArg (·.appConfig) h.rest
  have hstate : kept.state = flags.state := congrArg (·.state) h.rest
  simp only [execute, hrehearse, happConfig, hstate]

end Rehearsals

/-- The defaults without those of flags that are left out. -/
def defaultsBeside (flags kept : PreflightFlags) (defaults : FlagDefaults) : FlagDefaults :=
  { defaults with
    strategy := if kept.strategy = flags.strategy then defaults.strategy else none
    vmSize := if kept.vmSize = flags.vmSize then defaults.vmSize else none }

theorem sameDefaults_defaultsBeside (flags kept : PreflightFlags) (defaults : FlagDefaults) :
    SameDefaults flags kept defaults (defaultsBeside flags kept defaults) where
  waitTimeout := rfl
  leaseTimeout := rfl
  strategy h := if_pos h
  strategyLeft h := by rw [defaultsBeside, if_neg h]; rfl
  vmSize h := if_pos h
  vmSizeLeft h := by rw [defaultsBeside, if_neg h]; rfl

/-- An empty flag is the same as no flag and no default for it.  So where the settings have no
default that counts, or the flag takes none, it is the same as no flag. -/
theorem rehearse_leavesOutEmpty {flags kept : PreflightFlags} (h : flags.LeavesOutEmpty kept)
    (newId : UInt64 → String) (settings : Settings) (config : AppConfig) (snapshot : Snapshot) :
    rehearse newId flags settings config snapshot =
        rehearse newId kept
          { settings with defaults := defaultsBeside flags kept settings.defaults }
          config snapshot ∧
    ((kept.strategy ≠ flags.strategy → ∀ name, settings.defaults.strategy = some name → name = "") →
      (kept.vmSize ≠ flags.vmSize →
        ∀ size, settings.defaults.vmSize = some size → isBlank size = true) →
      rehearse newId flags settings config snapshot =
        rehearse newId kept settings config snapshot) ∧
    (kept.strategy = flags.strategy → kept.vmSize = flags.vmSize →
      ∀ {m : Type → Type} [Monad m] (readFile : String → m (Except ReadError String))
        (env : List (String × String)) (globals : GlobalFlags),
        execute readFile newId env globals (.preflight flags) =
          execute readFile newId env globals (.preflight kept)) := by
  refine ⟨?_, ?_, ?_⟩
  · exact rehearse_eq h (sameDefaults_defaultsBeside flags kept settings.defaults) newId config
      snapshot
  · intro hstrategy hvmSize
    have hdefaults : SameDefaults flags kept settings.defaults settings.defaults := {
      waitTimeout := rfl
      leaseTimeout := rfl
      strategy := fun _ => rfl
      strategyLeft := fun hne => nonEmpty_eq_none_iff.2 (hstrategy hne)
      vmSize := fun _ => rfl
      vmSizeLeft := fun hne => GuestSpec.ofToken_ok_none_iff.2 (hvmSize hne) }
    exact rehearse_eq h hdefaults newId config snapshot
  · intro hstrategy hvmSize m _ readFile env globals
    exact execute_eq h hstrategy hvmSize readFile newId env globals

/-- Five empty flags beside a default strategy that is empty too, and a size that is blank: the plan
is the same without them. -/
theorem shop_leavesOutEmpty :
    let flags : PreflightFlags :=
      { appConfig := "app.toml", state := "state.json", image := some "", strategy := some "",
        region := some "", app := some "", vmSize := some "" }
    let kept : PreflightFlags := { appConfig := "app.toml", state := "state.json" }
    let settings : Settings := { defaults := { strategy := some "", vmSize := some " " } }
    let answer (flags : PreflightFlags) := rehearse InMemoryPlane.tallyId flags settings
      { appName := "shop" } { app := some ⟨"shop", true⟩, currentImage := some "shop:1" }
    flags.LeavesOutEmpty kept ∧ answer flags = answer kept ∧
      ∃ plan, answer flags = .ok plan ∧ answer kept = .ok plan ∧
        plan.image = ⟨"shop:1", .latestRelease⟩ ∧ plan.strategy = .rolling ∧ plan.guest = none := by
  intro flags kept settings answer
  have hleaves : flags.LeavesOutEmpty kept := {
    image := .inr ⟨rfl, rfl⟩
    strategy := .inr ⟨rfl, rfl⟩
    region := .inr ⟨rfl, rfl⟩
    app := .inr ⟨rfl, rfl⟩
    vmSize := .inr ⟨rfl, rfl⟩
    others := ⟨none, none, none, none, none, rfl⟩ }
  have hsame : answer flags = answer kept := by
    obtain ⟨-, hplans, -⟩ := rehearse_leavesOutEmpty hleaves InMemoryPlane.tallyId settings
      { appName := "shop" } { app := some ⟨"shop", true⟩, currentImage := some "shop:1" }
    exact hplans (by simp [settings]) (by decide +kernel)
  obtain ⟨plan, hplan, himage, hstrategy, hguest⟩ : ∃ plan, answer flags = .ok plan ∧
      plan.image = ⟨"shop:1", .latestRelease⟩ ∧ plan.strategy = .rolling ∧ plan.guest = none := by
    rw [Result.exists_ok_and_iff]
    decide +kernel
  exact ⟨hleaves, hsame, plan, hplan, hsame ▸ hplan, himage, hstrategy, hguest⟩

/-- Flags for a new application, with or without a strategy. -/
def shopFlags (strategy : Option String) : PreflightFlags :=
  { appConfig := "app.toml", state := "state.json", image := some "shop:1", strategy }

/-- The plan for a new application whose default is the immediate strategy. -/
def immediateShop (strategy : Option String) : Except CommandError DeploymentPlan :=
  rehearse InMemoryPlane.tallyId (shopFlags strategy)
    { defaults := { strategy := some "immediate" } } { appName := "shop" }
    { app := some ⟨"shop", false⟩ }

/-- An empty strategy keeps the default of the settings away, which no flag at all does not. -/
theorem empty_strategy_sets_default_aside :
    (shopFlags (some "")).LeavesOutEmpty (shopFlags none) ∧
      (immediateShop (some "")).map (·.strategy) = .ok .rolling ∧
      (immediateShop none).map (·.strategy) = .ok .immediate ∧
      immediateShop (some "") ≠ immediateShop none := by
  have hempty : (immediateShop (some "")).map (·.strategy) = .ok .rolling := by decide +kernel
  have hleft : (immediateShop none).map (·.strategy) = .ok .immediate := by decide +kernel
  refine ⟨?_, hempty, hleft, ?_⟩
  · exact {
      image := .inl rfl
      strategy := .inr ⟨rfl, rfl⟩
      region := .inl rfl
      app := .inl rfl
      vmSize := .inl rfl
      others := ⟨_, _, _, _, _, rfl⟩ }
  · intro hsame
    rw [hsame, hleft] at hempty
    cases hempty

end CommandLine

end Preflight
