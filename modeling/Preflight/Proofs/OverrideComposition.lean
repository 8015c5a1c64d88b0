import Preflight.Proofs.AppConfig
import Preflight.Proofs.Overrides
import Preflight.Proofs.TextMap

/-!
# Overrides one after another

Overriding a configuration twice is overriding it once by `Overrides.andThen`, in which the tokens
of the second come after those of the first and its region and name go before.  On configurations
this is an equation of merges (`merged_andThen`).  On results it needs that the first resolution has
succeeded: then its tokens are read whatever follows them, and the second check of the outcome is
the only one that counts (`resolve_of_resolved`).

What a resolved configuration holds is said of the tokens themselves, by `Overrides.Assigns`, and
not of the map that they are gathered in.
-/

namespace Preflight

open Result

namespace Overrides

/-! ## Tokens -/

/-- A token is an assignment when it has a `=` and does not begin with one. -/
theorem isAssignment_iff {token : String} :
    IsAssignment token ↔ '=' ∈ token.toList ∧ token.toList.head? ≠ some '=' := by
  constructor
  · rintro ⟨key, value, hkey, hnot, rfl⟩
    refine ⟨by simp, ?_⟩
    cases hchars : key.toList with
    | nil => exact absurd (String.toList_eq_nil_iff.1 hchars) hkey
    | cons c cs =>
      rw [hchars] at hnot
      have hne : c ≠ '=' := fun heq => hnot (heq ▸ List.mem_cons_self)
      simpa [hchars] using hne
  · rintro ⟨hmem, hhead⟩
    obtain ⟨before, after, hsplit, hnot⟩ := List.eq_append_cons_of_mem hmem
    refine ⟨String.ofList before, String.ofList after, ?_, by simpa using hnot, ?_⟩
    · intro hempty
      have hnil : before = [] := by simpa using congrArg String.toList hempty
      rw [hsplit, hnil] at hhead
      exact hhead rfl
    · rw [← String.toList_inj, hsplit]
      simp

/-- Reading fails with the first token that is no assignment. -/
theorem parseTokens_error_iff {tokens : List String} {fault : ConfigurationFault} :
    parseTokens tokens = .error fault ↔
      ∃ before token after, tokens = before ++ token :: after ∧
        (∀ t ∈ before, IsAssignment t) ∧ ¬IsAssignment token ∧
        fault = .malformedOverride token := by
  have herror : ∀ token, parseToken token = .error fault ↔
      ¬IsAssignment token ∧ fault = .malformedOverride token := by
    intro token
    have hfault : ∀ e, parseToken token = .error e → e = .malformedOverride token := by
      intro e he
      unfold parseToken at he
      split at he
      · split at he
        · exact (Except.error.inj he).symm
        · cases he
      · exact (Except.error.inj he).symm
    rw [← exists_parseToken_iff]
    cases hparse : parseToken token with
    | error e =>
      have heq := hfault e hparse
      simp [heq, eq_comm]
    | ok pair => simp
  unfold parseTokens
  simp only [mapM_error_iff, exists_parseToken_iff, herror]

theorem parseTokens_append {tokens : List String} (h : ∀ token ∈ tokens, IsAssignment token)
    (more : List String) :
    parseTokens (tokens ++ more) = (parseTokens more).map (assignments tokens ++ ·) := by
  have hfirst : tokens.mapM parseToken = .ok (assignments tokens) :=
    parseTokens_ok_iff.2 ⟨h, rfl⟩
  unfold parseTokens
  rw [List.mapM_append, hfirst]
  cases more.mapM parseToken <;> rfl

/-! ## What variables are set to -/

/-- Of the tokens for a variable the last one decides. -/
theorem get?_assignments_of_last {tokens before after : List String} {token key value : String}
    (hsplit : tokens = before ++ token :: after) (hassigns : Assigns token key value)
    (hafter : ∀ t ∈ after, ∀ v, ¬Assigns t key v) :
    (TextMap.ofList (assignments tokens)).get? key = some value := by
  have hpairs : assignments tokens =
      assignments before ++ (key, value) :: assignments after := by
    rw [hsplit, assignments, List.filterMap_append, List.filterMap_cons_some
      (splitAtFirst?_eq_iff_assigns.2 hassigns)]
    rfl
  rw [hpairs]
  refine TextMap.get?_ofList_append_cons ?_
  rintro ⟨k, v⟩ he rfl
  obtain ⟨t, ht, hsplit⟩ := List.mem_filterMap.1 he
  exact hafter t ht v (splitAtFirst?_eq_iff_assigns.1 hsplit)

theorem get?_assignments_of_not {tokens : List String} {key : String}
    (h : ∀ token ∈ tokens, ∀ value, ¬Assigns token key value) :
    (TextMap.ofList (assignments tokens)).get? key = none := by
  refine TextMap.get?_ofList_of_not_mem ?_
  rintro ⟨k, v⟩ he rfl
  obtain ⟨t, ht, hsplit⟩ := List.mem_filterMap.1 he
  exact h t ht v (splitAtFirst?_eq_iff_assigns.1 hsplit)

/-! ## One after another -/

/-- The second overrides on top of the first. -/
def andThen (o o' : Overrides) : Overrides where
  env := o.env ++ o'.env
  primaryRegion := (nonEmpty o'.primaryRegion).or o.primaryRegion
  appName := (nonEmpty o'.appName).or o.appName

/-- A text that is overridden twice. -/
theorem getD_nonEmpty_or (first second : Option String) (text : String) :
    (nonEmpty ((nonEmpty second).or first)).getD text =
      (nonEmpty second).getD ((nonEmpty first).getD text) := by
  cases hsecond : nonEmpty second with
  | none => rfl
  | some value =>
    have hkept : nonEmpty (some value) = some value :=
      nonEmpty_eq_some_iff.2 ⟨rfl, (nonEmpty_eq_some_iff.1 hsecond).2⟩
    rw [Option.some_or, hkept]
    rfl

theorem get?_env_merged (o : Overrides) (c : AppConfig) (key : String) :
    (o.merged c).env.get? key =
      ((TextMap.ofList (assignments o.env)).get? key).or (c.env.get? key) :=
  TextMap.get?_insertAll_entries _ _ _

theorem merged_andThen (o o' : Overrides) (c : AppConfig) :
    o'.merged (o.merged c) = (o.andThen o').merged c := by
  have henv : (o'.merged (o.merged c)).env = ((o.andThen o').merged c).env := by
    refine TextMap.ext_get? fun key => ?_
    rw [get?_env_merged, get?_env_merged, get?_env_merged, TextMap.get?_ofList,
      TextMap.get?_ofList, TextMap.get?_ofList, andThen, assignments, assignments, assignments,
      List.filterMap_append, List.reverse_append, List.lookup_append, Option.or_assoc]
  unfold merged merge at henv ⊢
  simp only [andThen, getD_nonEmpty_or] at henv ⊢
  rw [henv]

theorem merged_self (o : Overrides) (c : AppConfig) : o.merged (o.merged c) = o.merged c := by
  have henv : (o.merged (o.merged c)).env = (o.merged c).env := by
    refine TextMap.ext_get? fun key => ?_
    rw [get?_env_merged, get?_env_merged, ← Option.or_assoc, Option.or_self]
  unfold merged merge at henv ⊢
  simp only at henv ⊢
  rw [henv]
  cases nonEmpty o.primaryRegion <;> cases nonEmpty o.appName <;> rfl

/-- The configuration, if it is valid. -/
def checked (c : AppConfig) : Except PreflightError AppConfig :=
  (c.validate.mapError fun e => .configuration (.invalid e)).map fun _ => c

theorem resolve_eq (o : Overrides) (c : AppConfig) :
    o.resolve (some c) = (parseTokens o.env).mapError .configuration >>= fun pairs =>
      checked (o.merge (.ofList pairs) c) := by
  unfold resolve parseEnv checked
  cases parseTokens o.env with
  | error fault => rfl
  | ok pairs =>
    simp only [Except.map, mapError_ok, bind, Except.bind]
    cases (o.merge (.ofList pairs) c).validate <;> rfl

/-- After a resolution that succeeded, the second one and the two in one give the same result. -/
theorem resolve_of_resolved {o : Overrides} {c resolved : AppConfig}
    (h : o.resolve (some c) = .ok resolved) (o' : Overrides) :
    o'.resolve (some resolved) = (o.andThen o').resolve (some c) := by
  obtain ⟨_, ⟨⟩, htokens, rfl, -⟩ := resolve_ok_iff.1 h
  have hcombined : parseTokens (o.andThen o').env =
      (parseTokens o'.env).map (assignments o.env ++ ·) := parseTokens_append htokens o'.env
  rw [resolve_eq, resolve_eq, hcombined]
  cases hmore : parseTokens o'.env with
  | error fault => rfl
  | ok pairs =>
    obtain ⟨-, rfl⟩ := parseTokens_ok_iff.1 hmore
    have hpairs : assignments (o.andThen o').env = assignments o.env ++ assignments o'.env :=
      List.filterMap_append
    have hmerged := merged_andThen o o' c
    unfold merged at hmerged
    rw [hpairs] at hmerged
    exact congrArg checked hmerged

theorem resolve_again {o : Overrides} {c resolved : AppConfig}
    (h : o.resolve (some c) = .ok resolved) : o.resolve (some resolved) = .ok resolved := by
  obtain ⟨_, ⟨⟩, htokens, rfl, hvalid⟩ := resolve_ok_iff.1 h
  exact resolve_ok_iff.2 ⟨_, rfl, htokens, (merged_self o c).symm, hvalid⟩

/-- When tokens are read, and how that fails. -/
structure ReadsTokens (tokens : List String) : Prop where
  /-- Each token has a `=` and does not begin with one. -/
  accepted : (∃ env, parseEnv tokens = .ok env) ↔
    ∀ token ∈ tokens, '=' ∈ token.toList ∧ token.toList.head? ≠ some '='
  /-- The failure names the first token that is not of this form. -/
  refused : ∀ fault, parseEnv tokens = .error fault ↔
    ∃ before token after, tokens = before ++ token :: after ∧
      (∀ t ∈ before, '=' ∈ t.toList ∧ t.toList.head? ≠ some '=') ∧
      ¬('=' ∈ token.toList ∧ token.toList.head? ≠ some '=') ∧
      fault = .malformedOverride token

theorem readsTokens (tokens : List String) : ReadsTokens tokens where
  accepted := by
    simp only [← isAssignment_iff, parseEnv]
    cases htokens : parseTokens tokens with
    | error fault =>
      obtain ⟨before, token, after, rfl, -, hbad, -⟩ := parseTokens_error_iff.1 htokens
      simp only [Except.map, reduceCtorEq, exists_false, false_iff]
      exact fun hall => hbad (hall token (by simp))
    | ok pairs => exact ⟨fun _ => (parseTokens_ok_iff.1 htokens).1, fun _ => ⟨_, rfl⟩⟩
  refused := by
    intro fault
    simp only [← isAssignment_iff, ← parseTokens_error_iff, parseEnv]
    cases parseTokens tokens <;> simp [Except.map]

/-- What overrides make of a configuration. -/
structure OverridesConfig (o : Overrides) (c resolved : AppConfig) : Prop where
  /-- The last token for a variable decides. -/
  assigned : ∀ before token after key value, o.env = before ++ token :: after →
    Assigns token key value → (∀ t ∈ after, ∀ v, ¬Assigns t key v) →
    resolved.env.get? key = some value
  /-- A variable without a token keeps its value. -/
  unassigned : ∀ key, (∀ token ∈ o.env, ∀ value, ¬Assigns token key value) →
    resolved.env.get? key = c.env.get? key
  processes : resolved.processes = c.processes
  mounts : resolved.mounts = c.mounts
  deploy : resolved.deploy = c.deploy
  region : resolved.primaryRegion = (nonEmpty o.primaryRegion).getD c.primaryRegion
  appName : resolved.appName = (nonEmpty o.appName).getD c.appName
  /-- Nothing is cleared. -/
  region_ne : c.primaryRegion ≠ "" → resolved.primaryRegion ≠ ""
  appName_ne : c.appName ≠ "" → resolved.appName ≠ ""

theorem getD_nonEmpty_ne (s : Option String) {text : String} (h : text ≠ "") :
    (nonEmpty s).getD text ≠ "" := by
  cases hs : nonEmpty s with
  | none => exact h
  | some value => exact (nonEmpty_eq_some_iff.1 hs).2

theorem overridesConfig_merged (o : Overrides) (c : AppConfig) :
    OverridesConfig o c (o.merged c) where
  assigned := by
    intro before token after key value hsplit hassigns hafter
    rw [get?_env_merged, get?_assignments_of_last hsplit hassigns hafter, Option.some_or]
  unassigned := by
    intro key hnone
    rw [get?_env_merged, get?_assignments_of_not hnone, Option.none_or]
  processes := rfl
  mounts := rfl
  deploy := rfl
  region := rfl
  appName := rfl
  region_ne := getD_nonEmpty_ne o.primaryRegion
  appName_ne := getD_nonEmpty_ne o.appName

/-- Tokens are read up to the first one of another form; a resolution that succeeds overrides what
its tokens and texts say and nothing else; and what it gives can be overridden further, to the same
result as in one step. -/
theorem resolve_composes (o : Overrides) (c : AppConfig) :
    ReadsTokens o.env ∧ ∀ resolved, o.resolve (some c) = .ok resolved →
      OverridesConfig o c resolved ∧
      (∀ o', o'.resolve (some resolved) = (o.andThen o').resolve (some c)) ∧
      o.resolve (some resolved) = .ok resolved := by
  refine ⟨readsTokens o.env, ?_⟩
  intro resolved h
  refine ⟨?_, resolve_of_resolved h, resolve_again h⟩
  obtain ⟨_, ⟨⟩, -, rfl, -⟩ := resolve_ok_iff.1 h
  exact overridesConfig_merged o c

/-- One variable set in both steps, with a `=` in its value, and the region kept by an empty
text. -/
theorem shop_composes :
    let o : Overrides := { env := ["MODE=test", "URL=a=b"], primaryRegion := some "ams" }
    let o' : Overrides := { env := ["MODE=x=y"], primaryRegion := some "", appName := some "blog" }
    let c : AppConfig := { appName := "shop", env := .ofList [("LOG", "info")] }
    let resolved : AppConfig := { c with
      primaryRegion := "ams"
      env := .ofList [("LOG", "info"), ("MODE", "test"), ("URL", "a=b")] }
    o.resolve (some c) = .ok resolved ∧
    o'.resolve (some resolved) = .ok { resolved with
      appName := "blog"
      env := .ofList [("LOG", "info"), ("MODE", "x=y"), ("URL", "a=b")] } ∧
    (o.andThen o').resolve (some c) = o'.resolve (some resolved) := by
  intro o o' c resolved
  have hresolved : o.resolve (some c) = .ok resolved := by decide +kernel
  obtain ⟨-, hcomposes⟩ := resolve_composes o c
  obtain ⟨-, hthen, -⟩ := hcomposes resolved hresolved
  exact ⟨hresolved, by decide +kernel, (hthen o').symm⟩

/-- A token that begins with a `=` is refused, though it has another one further on. -/
theorem parseEnv_refuses_leading_separator :
    (∀ token ∈ ["=a=b"], ∃ i, 0 < i ∧ token.toList[i]? = some '=') ∧
      ∀ env, parseEnv ["=a=b"] ≠ .ok env := by
  have hrefused : parseEnv ["=a=b"] = .error (.malformedOverride "=a=b") := by decide +kernel
  refine ⟨?_, ?_⟩
  · intro token htoken
    obtain rfl := List.mem_singleton.1 htoken
    exact ⟨2, by decide, by decide⟩
  · intro env henv
    rw [hrefused] at henv
    cases henv

end Overrides

end Preflight
