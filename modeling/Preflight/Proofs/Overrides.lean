import Preflight.AppConfig.Overrides
import Preflight.Proofs.Results
import Preflight.Proofs.Text

/-!
# What overrides resolve to

`Overrides.resolve` succeeds when there is a configuration, every token is an assignment and the
merged configuration is valid; and then `Overrides.merged` is its result (`resolve_ok_iff`).
-/

namespace Preflight

open Result

namespace Overrides

/-! ## Tokens -/

/-- The token gives the value to the variable: the variable is the text before the first `=`, the
value is all the rest. -/
def Assigns (token key value : String) : Prop := token = key ++ "=" ++ value ∧ '=' ∉ key.toList

theorem splitAtFirst?_eq_iff_assigns {token key value : String} :
    splitAtFirst? '=' token = some (key, value) ↔ Assigns token key value := by
  have htext : token = key ++ "=" ++ value ↔ token.toList = key.toList ++ '=' :: value.toList := by
    rw [← String.toList_inj]
    simp
  rw [splitAtFirst?_eq_some_iff, Assigns, htext]

/-- The token gives a value to a variable whose name is not empty.  The name ends at the first
`=`. -/
def IsAssignment (token : String) : Prop :=
  ∃ key value, key ≠ "" ∧ '=' ∉ key.toList ∧ token = key ++ "=" ++ value

/-- The variables and values of those tokens that have a `=`. -/
def assignments (tokens : List String) : List (String × String) :=
  tokens.filterMap (splitAtFirst? '=')

theorem assignments_cons {token : String} {pair : String × String}
    (h : splitAtFirst? '=' token = some pair) (tokens : List String) :
    assignments (token :: tokens) = pair :: assignments tokens := by
  simp [assignments, h]

theorem parseToken_ok_iff {token : String} {pair : String × String} :
    parseToken token = .ok pair ↔ splitAtFirst? '=' token = some pair ∧ pair.1 ≠ "" := by
  unfold parseToken
  cases splitAtFirst? '=' token with
  | none => simp
  | some found =>
    refine guard_ok_iff.trans ?_
    rw [Except.ok.injEq, Option.some.injEq]
    constructor
    · rintro ⟨hkey, rfl⟩
      exact ⟨rfl, hkey⟩
    · rintro ⟨rfl, hkey⟩
      exact ⟨hkey, rfl⟩

theorem exists_parseToken_iff {token : String} :
    (∃ pair, parseToken token = .ok pair) ↔ IsAssignment token := by
  simp only [parseToken_ok_iff, Prod.exists, splitAtFirst?_eq_iff_assigns, IsAssignment, Assigns]
  refine exists_congr fun key => exists_congr fun value => ?_
  exact ⟨fun ⟨⟨heq, hnot⟩, hne⟩ => ⟨hne, hnot, heq⟩, fun ⟨hne, hnot, heq⟩ => ⟨⟨heq, hnot⟩, hne⟩⟩

/-- Tokens are read when each of them is an assignment. -/
theorem parseTokens_ok_iff {tokens : List String} {pairs : List (String × String)} :
    parseTokens tokens = .ok pairs ↔
      (∀ token ∈ tokens, IsAssignment token) ∧ pairs = assignments tokens := by
  induction tokens generalizing pairs with
  | nil =>
    rw [parseTokens, List.mapM_nil, pure_ok_iff]
    simp [assignments, eq_comm]
  | cons token tokens ih =>
    unfold parseTokens at ih ⊢
    simp only [List.mapM_cons, bind_ok_iff, pure_ok_iff, ih, List.forall_mem_cons]
    constructor
    · rintro ⟨pair, hpair, _, ⟨htokens, rfl⟩, rfl⟩
      refine ⟨⟨exists_parseToken_iff.1 ⟨pair, hpair⟩, htokens⟩, ?_⟩
      rw [assignments_cons (parseToken_ok_iff.1 hpair).1]
    · rintro ⟨⟨htoken, htokens⟩, rfl⟩
      obtain ⟨pair, hpair⟩ := exists_parseToken_iff.2 htoken
      refine ⟨pair, hpair, _, ⟨htokens, rfl⟩, ?_⟩
      rw [assignments_cons (parseToken_ok_iff.1 hpair).1]

/-! ## Resolution -/

/-- The configuration with its overrides. -/
def merged (o : Overrides) (c : AppConfig) : AppConfig := o.merge (.ofList (assignments o.env)) c

/-- Resolution succeeds with the merged configuration when there is one, the tokens are
assignments and the outcome is valid. -/
theorem resolve_ok_iff {o : Overrides} {ambient : Option AppConfig} {config : AppConfig} :
    o.resolve ambient = .ok config ↔
      ∃ c, ambient = some c ∧ (∀ token ∈ o.env, IsAssignment token) ∧ config = o.merged c ∧
        config.validate = .ok () := by
  cases ambient with
  | none => simp [resolve]
  | some c =>
    simp only [resolve, parseEnv, bind_ok_iff, mapError_ok_iff, pure_ok_iff]
    constructor
    · rintro ⟨env, henv, _, hvalid, rfl⟩
      cases htokens : parseTokens o.env with
      | error e => simp [htokens, Except.map] at henv
      | ok pairs =>
        obtain ⟨hassign, rfl⟩ := parseTokens_ok_iff.1 htokens
        obtain rfl : TextMap.ofList (assignments o.env) = env := by
          simpa [htokens, Except.map] using henv
        exact ⟨c, rfl, hassign, rfl, hvalid⟩
    · rintro ⟨_, ⟨⟩, hassign, rfl, hvalid⟩
      have htokens := parseTokens_ok_iff.2 ⟨hassign, rfl⟩
      exact ⟨_, by rw [htokens, Except.map], (), hvalid, rfl⟩

end Overrides

end Preflight
