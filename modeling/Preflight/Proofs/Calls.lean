import Preflight.ControlPlane.InMemory
import Preflight.Proofs.Action

/-!
# The calls of a plane in memory

One equation for each call gives its answer and the plane after it.  Every call is logged
(`InMemoryPlane.log`), and answers the failure that is set for its operation before anything else
(`InMemoryPlane.unlessFailing`).  The four calls that only read leave the plane as it was but for
the log; `InMemoryPlane.OnlyRead` is that relation, and `InMemoryPlane.OnlyLogged` the same for
calls of any kind.  `InMemoryPlane.SameButLog` relates planes that agree in everything but their
logs.
-/

namespace Preflight

/-- Whether a call only reads. -/
def Call.isReading : Call → Bool
  | .listMachines _ | .listActiveMachines _ | .listVolumes _ | .latestReleaseImage _ => true
  | .createRelease _ | .updateRelease _ _ => false

namespace InMemoryPlane

variable {α : Type}

/-! ## The log and the failures -/

/-- The plane with one more call in its log. -/
def log (p : InMemoryPlane) (call : Call) : InMemoryPlane := { p with calls := p.calls ++ [call] }

/-- The failure set for an operation, or else an answer. -/
def unlessFailing (p : InMemoryPlane) (op : Operation) (answer : Except ControlPlaneError α) :
    Except ControlPlaneError α :=
  match p.failures op with
  | some e => .error e
  | none => answer

theorem unlessFailing_of_none {p : InMemoryPlane} {op : Operation} (h : p.failures op = none)
    (answer : Except ControlPlaneError α) : p.unlessFailing op answer = answer := by
  simp [unlessFailing, h]

/-- A guarded answer is given when no failure is set. -/
theorem unlessFailing_ok_iff {p : InMemoryPlane} {op : Operation}
    {answer : Except ControlPlaneError α} {a : α} :
    p.unlessFailing op answer = .ok a ↔ p.failures op = none ∧ answer = .ok a := by
  unfold unlessFailing
  cases p.failures op <;> simp

theorem from_enter (call : Call) (p : InMemoryPlane) :
    (enter call).from p = (p.unlessFailing call.operation (.ok ()), p.log call) := by
  unfold enter unlessFailing
  simp only [Action.from_bind, Action.from_get, Action.from_set]
  cases p.failures call.operation <;> rfl

/-- A guarded look at the plane. -/
theorem from_enter_then {call : Call} {look : InMemoryPlane → α} (p : InMemoryPlane)
    (hlog : look (p.log call) = look p) :
    (do
      enter call
      return look (← get) : Action InMemoryPlane ControlPlaneError α).from p =
      (p.unlessFailing call.operation (.ok (look p)), p.log call) := by
  simp only [Action.from_bind, from_enter, unlessFailing]
  cases p.failures call.operation with
  | some e => rfl
  | none => simp [hlog]

/-! ## Reading -/

theorem from_listMachines (app : String) (p : InMemoryPlane) :
    (ControlPlaneClient.listMachines app : Action InMemoryPlane _ _).from p =
      (p.unlessFailing .listMachines (.ok (listingOf (p.machinesOf app))),
        p.log (.listMachines app)) :=
  from_enter_then p rfl

theorem from_listActiveMachines (app : String) (p : InMemoryPlane) :
    (ControlPlaneClient.listActiveMachines app : Action InMemoryPlane _ _).from p =
      (p.unlessFailing .listActiveMachines (.ok (activeOf (p.machinesOf app))),
        p.log (.listActiveMachines app)) :=
  from_enter_then p rfl

theorem from_listVolumes (app : String) (p : InMemoryPlane) :
    (ControlPlaneClient.listVolumes app : Action InMemoryPlane _ _).from p =
      (p.unlessFailing .listVolumes (.ok (p.volumesOf app)), p.log (.listVolumes app)) :=
  from_enter_then p rfl

theorem from_latestReleaseImage (app : String) (p : InMemoryPlane) :
    (ControlPlaneClient.latestReleaseImage app : Action InMemoryPlane _ _).from p =
      (p.unlessFailing .latestReleaseImage (.ok (p.ledger.latestImage? app)),
        p.log (.latestReleaseImage app)) :=
  from_enter_then p rfl

/-! ## Writing -/

theorem from_createRelease (input : ReleaseInput) (p : InMemoryPlane) :
    (ControlPlaneClient.createRelease input : Action InMemoryPlane _ _).from p =
      match p.unlessFailing .createRelease (p.releaseOf input) with
      | .ok r => (.ok r, (p.log (.createRelease input)).insertRelease r)
      | .error e => (.error e, p.log (.createRelease input)) := by
  show (enter (.createRelease input) >>= _).from p = _
  have hlog : (p.log (.createRelease input)).releaseOf input = p.releaseOf input := rfl
  rw [Action.from_bind, from_enter, unlessFailing, unlessFailing, Call.operation]
  cases p.failures .createRelease with
  | some e => rfl
  | none =>
    simp only [Action.from_bind, Action.from_get, Action.from_liftExcept, hlog]
    cases p.releaseOf input <;> rfl

theorem from_updateRelease (id : String) (status : ReleaseStatus) (p : InMemoryPlane) :
    (ControlPlaneClient.updateRelease id status : Action InMemoryPlane _ _).from p =
      match p.unlessFailing .updateRelease (p.checkUpdate id) with
      | .ok () => (.ok (), { p.log (.updateRelease id status) with
          ledger := p.ledger.setStatus id status })
      | .error e => (.error e, p.log (.updateRelease id status)) := by
  show (enter (.updateRelease id status) >>= _).from p = _
  have hlog : (p.log (.updateRelease id status)).checkUpdate id = p.checkUpdate id := rfl
  rw [Action.from_bind, from_enter, unlessFailing, unlessFailing, Call.operation]
  cases p.failures .updateRelease with
  | some e => rfl
  | none =>
    simp only [Action.from_bind, Action.from_get, Action.from_liftExcept, hlog]
    cases p.checkUpdate id <;> rfl

/-- A release that a request creates is the ledger's new one, of a known strategy and with an
image. -/
theorem releaseOf_ok_iff {p : InMemoryPlane} {input : ReleaseInput} {r : Release} :
    p.releaseOf input = .ok r ↔
      ∃ strategy, RolloutStrategy.ofLedgerName? input.strategy = some strategy ∧
        input.image ≠ "" ∧ r = p.ledger.newRelease input.appId strategy input.image .created := by
  unfold releaseOf
  cases RolloutStrategy.ofLedgerName? input.strategy with
  | none => simp
  | some strategy =>
    by_cases himage : input.image = ""
    · simp [himage]
    · simp [himage, eq_comm]

/-- A release may be updated when it is there and not terminal. -/
theorem checkUpdate_ok_iff {p : InMemoryPlane} {id : String} :
    p.checkUpdate id = .ok () ↔
      ∃ r, p.ledger.release? id = some r ∧ r.status.isTerminal = false := by
  unfold checkUpdate
  cases p.ledger.release? id with
  | none => simp
  | some r => cases h : r.status.isTerminal <;> simp [h]

/-! ## Planes that differ in their logs -/

/-- The second plane is the first one after some more calls that left everything else alone. -/
def OnlyLogged (p q : InMemoryPlane) : Prop := ∃ calls, q = { p with calls := p.calls ++ calls }

/-- The second plane is the first one after some more calls that read. -/
def OnlyRead (p q : InMemoryPlane) : Prop :=
  ∃ reads, (∀ call ∈ reads, call.isReading = true) ∧ q = { p with calls := p.calls ++ reads }

theorem onlyLogged_log (p : InMemoryPlane) (call : Call) : p.OnlyLogged (p.log call) :=
  ⟨[call], rfl⟩

theorem onlyRead_log (p : InMemoryPlane) {call : Call} (hcall : call.isReading = true) :
    p.OnlyRead (p.log call) :=
  ⟨[call], by simpa using hcall, rfl⟩

theorem OnlyRead.onlyLogged {p q : InMemoryPlane} (h : p.OnlyRead q) : p.OnlyLogged q := by
  obtain ⟨reads, -, hq⟩ := h
  exact ⟨reads, hq⟩

instance : IsPreorder InMemoryPlane OnlyLogged where
  refl p := ⟨[], by simp⟩
  trans := by
    rintro p _ _ ⟨calls, rfl⟩ ⟨more, rfl⟩
    exact ⟨calls ++ more, by simp⟩

instance : IsPreorder InMemoryPlane OnlyRead where
  refl p := ⟨[], by simp, by simp⟩
  trans := by
    rintro p _ _ ⟨reads, hreads, rfl⟩ ⟨more, hmore, rfl⟩
    refine ⟨reads ++ more, ?_, by simp⟩
    intro call hcall
    rcases List.mem_append.1 hcall with hcall | hcall
    · exact hreads call hcall
    · exact hmore call hcall

theorem readsKeep_onlyRead (app : String) : ReadsKeep OnlyRead app where
  listMachines p := by
    rw [from_listMachines]
    exact onlyRead_log p rfl
  listActiveMachines p := by
    rw [from_listActiveMachines]
    exact onlyRead_log p rfl
  listVolumes p := by
    rw [from_listVolumes]
    exact onlyRead_log p rfl
  latestReleaseImage p := by
    rw [from_latestReleaseImage]
    exact onlyRead_log p rfl

theorem readsKeep_onlyLogged (app : String) : ReadsKeep OnlyLogged app :=
  (readsKeep_onlyRead app).mono fun _ _ => OnlyRead.onlyLogged

/-- The planes agree in everything but their logs. -/
def SameButLog (p q : InMemoryPlane) : Prop := ∃ calls, q = { p with calls }

theorem OnlyLogged.sameButLog {p q : InMemoryPlane} (h : p.OnlyLogged q) : p.SameButLog q := by
  obtain ⟨calls, rfl⟩ := h
  exact ⟨p.calls ++ calls, rfl⟩

theorem SameButLog.refl (p : InMemoryPlane) : p.SameButLog p := ⟨p.calls, rfl⟩

theorem SameButLog.symm {p q : InMemoryPlane} (h : p.SameButLog q) : q.SameButLog p := by
  obtain ⟨calls, rfl⟩ := h
  exact ⟨p.calls, rfl⟩

theorem SameButLog.trans {p q r : InMemoryPlane} (hpq : p.SameButLog q) (hqr : q.SameButLog r) :
    p.SameButLog r := by
  obtain ⟨_, rfl⟩ := hpq
  obtain ⟨calls, rfl⟩ := hqr
  exact ⟨calls, rfl⟩

theorem SameButLog.clearFailures {p q : InMemoryPlane} (h : p.SameButLog q) :
    p.clearFailures.SameButLog q.clearFailures := by
  obtain ⟨calls, rfl⟩ := h
  exact ⟨calls, rfl⟩

end InMemoryPlane

end Preflight
