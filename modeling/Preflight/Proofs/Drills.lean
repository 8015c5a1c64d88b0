import Mathlib.Data.List.Induction
import Mathlib.Data.UInt
import Preflight.Proofs.Runs

/-!
# Failures that are set are transparent

A drill is a sequence of calls in between which failures are set and cleared.  A failure stands in
for the operation that it is set for: a call answers it, is logged, and leaves everything else
alone.  So a drill is no more than the calls in it that met no failure: made on a plane without
failures they have the same answers and leave the same machines, volumes and releases.  Releases
agree in their identifiers as well, since a call that fails uses up no version.

* `Call.make` is a call with its answer as a value, and `InMemoryPlane.from_make` gives the answer
  and the plane after it for all six calls alike.
* `InMemoryPlane.SameRecords` relates planes that differ in failures and logs at most.  A call that
  meets no failure on either plane keeps it (`SameRecords.make`); one that meets a failure on the
  first plane keeps it without a call on the second (`SameRecords.left`); and so, by induction,
  does a drill.
* `InMemoryPlane.InForce` tells the failure that is set from the steps of the drill alone.
* `InMemoryPlane.CountsUp` is how the counters of calls go up: by the number of calls, unless they
  wrap.
-/

namespace Preflight

open Preflight.Action

/-! ## Calls with their answers -/

/-- What a call answers that succeeds. -/
inductive Reply where
  | listing (listing : MachineListing)
  | machines (machines : List Machine)
  | volumes (volumes : List Volume)
  | image (image : Option String)
  | release (release : Release)
  | updated
  deriving DecidableEq, Repr

/-- Make a call. -/
def Call.make {σ : Type} [ControlPlaneClient σ] : Call → Action σ ControlPlaneError Reply
  | .listMachines app => return .listing (← ControlPlaneClient.listMachines app)
  | .listActiveMachines app => return .machines (← ControlPlaneClient.listActiveMachines app)
  | .listVolumes app => return .volumes (← ControlPlaneClient.listVolumes app)
  | .latestReleaseImage app => return .image (← ControlPlaneClient.latestReleaseImage app)
  | .createRelease input => return .release (← ControlPlaneClient.createRelease input)
  | .updateRelease id status => do
    ControlPlaneClient.updateRelease id status
    return .updated

namespace InMemoryPlane

/-- The answer to a call that meets no failure. -/
def replyTo (p : InMemoryPlane) : Call → Except ControlPlaneError Reply
  | .listMachines app => .ok (.listing (listingOf (p.machinesOf app)))
  | .listActiveMachines app => .ok (.machines (activeOf (p.machinesOf app)))
  | .listVolumes app => .ok (.volumes (p.volumesOf app))
  | .latestReleaseImage app => .ok (.image (p.ledger.latestImage? app))
  | .createRelease input => (p.releaseOf input).map .release
  | .updateRelease id _ => (p.checkUpdate id).map fun _ => .updated

/-- The ledger after a call that meets no failure. -/
def ledgerAfter (p : InMemoryPlane) : Call → Ledger
  | .createRelease input =>
    match p.releaseOf input with
    | .ok r => p.ledger.insert r
    | .error _ => p.ledger
  | .updateRelease id status =>
    match p.checkUpdate id with
    | .ok () => p.ledger.setStatus id status
    | .error _ => p.ledger
  | _ => p.ledger

/-- A call that reads, with its answer turned into a reply. -/
theorem from_read {α : Type} {x : Action InMemoryPlane ControlPlaneError α} {call : Call} {a : α}
    {p : InMemoryPlane} (h : x.from p = (p.unlessFailing call.operation (.ok a), p.log call))
    (reply : α → Reply) :
    (do return reply (← x) : Action InMemoryPlane ControlPlaneError Reply).from p =
      match p.failures call.operation with
      | some e => (.error e, p.log call)
      | none => (.ok (reply a), p.log call) := by
  rw [from_bind, h, unlessFailing]
  cases p.failures call.operation <;> rfl

/-- A call is logged in any case.  It does the rest only where no failure is set for its
operation. -/
theorem from_make (call : Call) (p : InMemoryPlane) :
    call.make.from p = match p.failures call.operation with
      | some e => (.error e, p.log call)
      | none => (p.replyTo call, { p.log call with ledger := p.ledgerAfter call }) := by
  cases call with
  | listMachines app => exact from_read (from_listMachines app p) .listing
  | listActiveMachines app => exact from_read (from_listActiveMachines app p) .machines
  | listVolumes app => exact from_read (from_listVolumes app p) .volumes
  | latestReleaseImage app => exact from_read (from_latestReleaseImage app p) .image
  | createRelease input =>
    rw [Call.make, from_bind, from_createRelease, unlessFailing, Call.operation]
    cases p.failures .createRelease with
    | some e => rfl
    | none =>
      simp only [replyTo, ledgerAfter]
      cases p.releaseOf input <;> rfl
  | updateRelease id status =>
    rw [Call.make, from_bind, from_updateRelease, unlessFailing, Call.operation]
    cases p.failures .updateRelease with
    | some e => rfl
    | none =>
      simp only [replyTo, ledgerAfter]
      cases p.checkUpdate id <;> rfl

theorem from_make_of_failure {call : Call} {p : InMemoryPlane} {e : ControlPlaneError}
    (h : p.failures call.operation = some e) : call.make.from p = (.error e, p.log call) := by
  rw [from_make, h]

theorem from_make_of_clear {call : Call} {p : InMemoryPlane}
    (h : p.failures call.operation = none) :
    call.make.from p = (p.replyTo call, { p.log call with ledger := p.ledgerAfter call }) := by
  rw [from_make, h]

/-- Making a call sets no failure. -/
theorem failures_make (call : Call) (p : InMemoryPlane) :
    (call.make.from p).2.failures = p.failures := by
  rw [from_make]
  cases p.failures call.operation <;> rfl

theorem calls_make (call : Call) (p : InMemoryPlane) :
    (call.make.from p).2.calls = p.calls ++ [call] := by
  rw [from_make]
  cases p.failures call.operation <;> rfl

/-! ## Planes that hold the same -/

/-- The planes agree in everything but their failures and logs. -/
def SameRecords (p q : InMemoryPlane) : Prop := ∃ failures calls, q = { p with failures, calls }

namespace SameRecords

variable {p q : InMemoryPlane}

theorem clearFailures (p : InMemoryPlane) : SameRecords p p.clearFailures :=
  ⟨fun _ => none, p.calls, rfl⟩

/-- The first plane is changed in its failures and its log. -/
theorem left (h : SameRecords p q) (failures : Operation → Option ControlPlaneError)
    (calls : List Call) : SameRecords { p with failures, calls } q := by
  obtain ⟨failures', calls', rfl⟩ := h
  exact ⟨failures', calls', rfl⟩

/-- A call that meets no failure does not set the planes apart. -/
theorem make (h : SameRecords p q) {call : Call} (hp : p.failures call.operation = none)
    (hq : q.failures call.operation = none) :
    (call.make.from q).1 = (call.make.from p).1 ∧
      SameRecords (call.make.from p).2 (call.make.from q).2 := by
  rw [from_make_of_clear hp, from_make_of_clear hq]
  obtain ⟨failures, calls, rfl⟩ := h
  have hreply : ({ p with failures, calls } : InMemoryPlane).replyTo call = p.replyTo call := by
    cases call <;> rfl
  have hledger : ({ p with failures, calls } : InMemoryPlane).ledgerAfter call =
      p.ledgerAfter call := by
    cases call <;> rfl
  refine ⟨hreply, failures, calls ++ [call], ?_⟩
  rw [hledger]
  rfl

end SameRecords

end InMemoryPlane

/-! ## Drills -/

/-- A step of a drill. -/
inductive DrillStep where
  | call (call : Call)
  | failOperation (op : Operation) (e : ControlPlaneError)
  | clearFailures

/-- The calls of a drill. -/
def DrillStep.calls (drill : List DrillStep) : List Call :=
  drill.filterMap fun
    | .call c => some c
    | .failOperation _ _ => none
    | .clearFailures => none

/-- Whether a step settles which failure is set for an operation. -/
def DrillStep.Settles (op : Operation) : DrillStep → Prop
  | .call _ => False
  | .failOperation o _ => o = op
  | .clearFailures => True

/-- A call that was made. -/
structure Exchange where
  call : Call
  /-- The failure that was set for its operation. -/
  failure : Option ControlPlaneError
  answer : Except ControlPlaneError Reply

namespace InMemoryPlane

/-- The plane after a step. -/
def afterStep (p : InMemoryPlane) : DrillStep → InMemoryPlane
  | .call call => (call.make.from p).2
  | .failOperation op e => p.failOperation op e
  | .clearFailures => p.clearFailures

/-- The plane after a drill. -/
def afterDrill (p : InMemoryPlane) (drill : List DrillStep) : InMemoryPlane :=
  drill.foldl afterStep p

/-- The calls of a drill with their answers. -/
def exchanges (p : InMemoryPlane) : List DrillStep → List Exchange
  | [] => []
  | .call call :: drill =>
    ⟨call, p.failures call.operation, (call.make.from p).1⟩ ::
      exchanges (p.afterStep (.call call)) drill
  | .failOperation op e :: drill => exchanges (p.afterStep (.failOperation op e)) drill
  | .clearFailures :: drill => exchanges (p.afterStep .clearFailures) drill

/-- What was said in a drill where no failure was set. -/
def undisturbed (p : InMemoryPlane) (drill : List DrillStep) : List Exchange :=
  (p.exchanges drill).filter (·.failure.isNone)

/-- The calls of a drill that met no failure, as a drill of their own. -/
def withoutFailures (p : InMemoryPlane) (drill : List DrillStep) : List DrillStep :=
  (p.undisturbed drill).map fun exchange => .call exchange.call

/-! ## What is set -/

/-- The failure is set for the operation after the steps: it is the last one that they set, or the
plane had it before them, and it was not cleared since. -/
def InForce (p : InMemoryPlane) (steps : List DrillStep) (op : Operation)
    (e : ControlPlaneError) : Prop :=
  (∃ before after, steps = before ++ .failOperation op e :: after ∧
    ∀ s ∈ after, ¬s.Settles op) ∨
  p.failures op = some e ∧ ∀ s ∈ steps, ¬s.Settles op

section InForce

variable {p : InMemoryPlane} {steps : List DrillStep} {s : DrillStep} {op : Operation}
  {e : ControlPlaneError}

/-- One more step: it sets the failure itself, or it settles nothing. -/
theorem inForce_append :
    p.InForce (steps ++ [s]) op e ↔
      s = .failOperation op e ∨ ¬s.Settles op ∧ p.InForce steps op e := by
  constructor
  · rintro (⟨before, after, hsplit, hafter⟩ | ⟨hset, hnone⟩)
    · rcases List.eq_nil_or_concat after with rfl | ⟨after, t, rfl⟩
      · exact .inl (List.singleton_inj.1 (List.append_inj' hsplit rfl).2)
      · rw [List.concat_eq_append, ← List.cons_append, ← List.append_assoc] at hsplit
        obtain ⟨hsteps, hlast⟩ := List.append_inj' hsplit rfl
        obtain rfl : s = t := List.singleton_inj.1 hlast
        refine .inr ⟨hafter s (by simp), .inl ⟨before, after, hsteps, ?_⟩⟩
        intro t ht
        exact hafter t (by simp [ht])
    · refine .inr ⟨hnone s (by simp), .inr ⟨hset, ?_⟩⟩
      intro t ht
      exact hnone t (by simp [ht])
  · rintro (rfl | ⟨hs, ⟨before, after, rfl, hafter⟩ | ⟨hset, hnone⟩⟩)
    · exact .inl ⟨steps, [], rfl, by simp⟩
    · refine .inl ⟨before, after ++ [s], by simp, ?_⟩
      intro t ht
      rcases List.mem_append.1 ht with ht | ht
      · exact hafter t ht
      · rwa [List.mem_singleton.1 ht]
    · refine .inr ⟨hset, ?_⟩
      intro t ht
      rcases List.mem_append.1 ht with ht | ht
      · exact hnone t ht
      · rwa [List.mem_singleton.1 ht]

/-- The plane keeps account of what is in force. -/
theorem failures_afterDrill_iff :
    (p.afterDrill steps).failures op = some e ↔ p.InForce steps op e := by
  induction steps using List.reverseRecOn with
  | nil => simp [afterDrill, InForce]
  | append_singleton steps s ih =>
    have hafter : p.afterDrill (steps ++ [s]) = (p.afterDrill steps).afterStep s := by
      rw [afterDrill, List.foldl_append]
      rfl
    rw [hafter, inForce_append, ← ih]
    cases s with
    | call call => simp [afterStep, failures_make, DrillStep.Settles]
    | failOperation o e' =>
      by_cases hop : o = op
      · simp [afterStep, failOperation, DrillStep.Settles, hop]
      · simp [afterStep, failOperation, DrillStep.Settles, hop, Ne.symm hop]
    | clearFailures => simp [afterStep, clearFailures, DrillStep.Settles]

end InForce

/-! ## Drills without their failures -/

/-- From planes that hold the same, the second of which has no failures. -/
theorem exchanges_withoutFailures {p q : InMemoryPlane} (h : SameRecords p q)
    (hclear : ∀ op, q.failures op = none) (drill : List DrillStep) :
    q.exchanges (p.withoutFailures drill) = p.undisturbed drill ∧
      SameRecords (p.afterDrill drill) (q.afterDrill (p.withoutFailures drill)) := by
  induction drill generalizing p q with
  | nil => exact ⟨rfl, h⟩
  | cons s drill ih =>
    cases s with
    | call call =>
      cases hp : p.failures call.operation with
      | some e =>
        have hskip : p.undisturbed (.call call :: drill) =
            (p.afterStep (.call call)).undisturbed drill := by
          simp [undisturbed, exchanges, hp]
        have hstep : SameRecords (p.afterStep (.call call)) q := by
          show SameRecords (call.make.from p).2 q
          rw [from_make_of_failure hp]
          exact h.left p.failures (p.calls ++ [call])
        rw [withoutFailures, hskip]
        exact ih hstep hclear
      | none =>
        have hkeep : p.undisturbed (.call call :: drill) =
            ⟨call, none, (call.make.from p).1⟩ :: (p.afterStep (.call call)).undisturbed drill := by
          simp [undisturbed, exchanges, hp]
        obtain ⟨hanswer, hstep⟩ := h.make hp (hclear call.operation)
        have hclear' : ∀ op, (call.make.from q).2.failures op = none := by
          rw [failures_make]
          exact hclear
        obtain ⟨hexchanges, hafter⟩ := ih hstep hclear'
        rw [withoutFailures, hkeep, List.map_cons]
        refine ⟨?_, hafter⟩
        rw [exchanges, hclear, hanswer]
        exact congrArg _ hexchanges
    | failOperation op e => exact ih (h.left _ p.calls) hclear
    | clearFailures => exact ih (h.left _ p.calls) hclear

/-! ## Counting -/

theorem calls_afterDrill (p : InMemoryPlane) (drill : List DrillStep) :
    (p.afterDrill drill).calls = p.calls ++ DrillStep.calls drill := by
  induction drill generalizing p with
  | nil => exact (List.append_nil _).symm
  | cons s drill ih =>
    have hafter : p.afterDrill (s :: drill) = (p.afterStep s).afterDrill drill := rfl
    rw [hafter, ih]
    cases s with
    | call call => simp [afterStep, calls_make, DrillStep.calls]
    | failOperation op e => rfl
    | clearFailures => rfl

/-- A counter has gone up by a number, or has wrapped if there was no room for it. -/
structure CountsUp (before after : UInt64) (n : Nat) : Prop where
  wrapping : after = before + .ofNat n
  unwrapped : before.toNat + n < 2 ^ 64 → after.toNat = before.toNat + n

theorem countsUp_add (before : UInt64) (n : Nat) : CountsUp before (before + .ofNat n) n where
  wrapping := rfl
  unwrapped h := by
    rw [UInt64.toNat_add, UInt64.toNat_ofNat', Nat.add_mod_mod]
    exact Nat.mod_eq_of_lt h

theorem countsUp_callCount {p q : InMemoryPlane} {calls : List Call}
    (h : q.calls = p.calls ++ calls) (op : Operation) :
    CountsUp (p.callCount op) (q.callCount op) (calls.countP (·.operation == op)) := by
  have hcount : q.callCount op = p.callCount op + .ofNat (calls.countP (·.operation == op)) := by
    rw [callCount, callCount, h, List.countP_append, UInt64.ofNat_add]
  rw [hcount]
  exact countsUp_add _ _

theorem countsUp_callCount_log (p : InMemoryPlane) (call : Call) (op : Operation) :
    CountsUp (p.callCount op) ((p.log call).callCount op)
      (if call.operation = op then 1 else 0) := by
  have hcalls : (p.log call).calls = p.calls ++ [call] := rfl
  have hcall := countsUp_callCount hcalls op
  simpa [List.countP_singleton] using hcall

theorem sum_ofNat (ns : List Nat) : (ns.map UInt64.ofNat).sum = .ofNat ns.sum := by
  induction ns with
  | nil => rfl
  | cons n ns ih => rw [List.map_cons, List.sum_cons, ih, List.sum_cons, UInt64.ofNat_add]

theorem toNat_sum {ws : List UInt64} (h : (ws.map UInt64.toNat).sum < 2 ^ 64) :
    ws.sum.toNat = (ws.map UInt64.toNat).sum := by
  have hws : (ws.map UInt64.toNat).map UInt64.ofNat = ws := by simp [Function.comp_def]
  have hsum := sum_ofNat (ws.map UInt64.toNat)
  rw [hws] at hsum
  rw [hsum, UInt64.toNat_ofNat', Nat.mod_eq_of_lt h]

/-- Every call is one of some operation. -/
theorem sum_countP (calls : List Call) :
    (Operation.all.map fun op => calls.countP (·.operation == op)).sum = calls.length := by
  induction calls with
  | nil => rfl
  | cons call calls ih =>
    simp only [Operation.all, List.map_cons, List.map_nil, List.sum_cons, List.sum_nil,
      List.countP_cons, List.length_cons] at ih ⊢
    -- the call adds one to the count of its own operation
    cases call.operation <;> simp <;> omega

theorem totalCalls_eq_sum (p : InMemoryPlane) :
    p.totalCalls = (Operation.all.map p.callCount).sum := by
  rw [totalCalls, List.sum_eq_foldl]

theorem totalCalls_eq_length (p : InMemoryPlane) : p.totalCalls = .ofNat p.calls.length := by
  have hcounts : Operation.all.map p.callCount =
      (Operation.all.map fun op => p.calls.countP (·.operation == op)).map UInt64.ofNat := by
    rw [List.map_map]
    rfl
  rw [totalCalls_eq_sum, hcounts, sum_ofNat, sum_countP]

/-! ## What a drill shows -/

/-- Failures show in nothing but the answers that they give themselves. -/
structure TransparentIn (p : InMemoryPlane) (drill : List DrillStep) : Prop where
  /-- At any time a plane has set for an operation what was set last and not cleared. -/
  inForce : ∀ before after, drill = before ++ after → ∀ op e,
    (p.afterDrill before).failures op = some e ↔ p.InForce before op e
  /-- A call that meets a failure answers it, and nothing changes but the log. -/
  failed : ∀ before call after, drill = before ++ .call call :: after →
    ∀ e, p.InForce before call.operation e →
      call.make.from (p.afterDrill before) = (.error e, (p.afterDrill before).log call) ∧
      ∀ op, CountsUp ((p.afterDrill before).callCount op)
        (((p.afterDrill before).log call).callCount op) (if call.operation = op then 1 else 0)
  /-- The other calls are answered as in the drill without failures. -/
  answered : p.undisturbed drill = p.clearFailures.exchanges (p.withoutFailures drill)
  /-- The machines, the volumes and the ledger in the end are those of that drill. -/
  records : SameRecords (p.afterDrill drill)
    (p.clearFailures.afterDrill (p.withoutFailures drill))
  /-- Every call is counted, whether it met a failure or not. -/
  counted : ∀ op, CountsUp (p.callCount op) ((p.afterDrill drill).callCount op)
    ((DrillStep.calls drill).countP (·.operation == op))
  total : (p.afterDrill drill).totalCalls =
    (Operation.all.map (p.afterDrill drill).callCount).sum
  /-- The counters add up without wrapping, if there is room for their sum. -/
  totalUnwrapped :
    ((Operation.all.map (p.afterDrill drill).callCount).map UInt64.toNat).sum < 2 ^ 64 →
      (p.afterDrill drill).totalCalls.toNat =
        ((Operation.all.map (p.afterDrill drill).callCount).map UInt64.toNat).sum
  totalled : CountsUp p.totalCalls (p.afterDrill drill).totalCalls (DrillStep.calls drill).length

/-- Whatever is set and cleared in between the calls, and whatever the plane had set before. -/
theorem drill_transparent (p : InMemoryPlane) (drill : List DrillStep) :
    TransparentIn p drill := by
  have hclear : ∀ op, p.clearFailures.failures op = none := fun _ => rfl
  obtain ⟨hanswered, hrecords⟩ := exchanges_withoutFailures (.clearFailures p) hclear drill
  exact {
    inForce := fun before after _ op e => failures_afterDrill_iff
    failed := by
      intro before call after _ e hforce
      have hset := failures_afterDrill_iff.2 hforce
      exact ⟨from_make_of_failure hset, countsUp_callCount_log _ call⟩
    answered := hanswered.symm
    records := hrecords
    counted := countsUp_callCount (calls_afterDrill p drill)
    total := totalCalls_eq_sum _
    totalUnwrapped := by
      intro hroom
      rw [totalCalls_eq_sum]
      exact toNat_sum hroom
    totalled := by
      rw [totalCalls_eq_length, totalCalls_eq_length, calls_afterDrill, List.length_append,
        UInt64.ofNat_add]
      exact countsUp_add _ _ }

/-- A release that could not be created at first gets the version it would have had. -/
example :
    let input : ReleaseInput := ⟨"shop", "machines", "ROLLING", .null, "shop:1"⟩
    (newShop.exchanges [.failOperation .createRelease (.unavailable "maintenance"),
      .call (.createRelease input), .clearFailures, .call (.createRelease input)]).map (·.answer) =
      [.error (.unavailable "maintenance"),
        .ok (.release ⟨"i", 1, "shop", .rolling, "shop:1", .created⟩)] := by
  decide +kernel

end InMemoryPlane

end Preflight
