import Preflight.Proofs.Calls
import Preflight.Proofs.Draft
import Preflight.Proofs.LedgerHistory

/-!
# Runs of a plane in memory

`InMemoryPlane.Run p q` says that a sequence of operations leads from `p` to `q`: machines,
volumes and finished releases are added, failures set and cleared, calls made, plans prepared and
finalized, for any applications and in any order, and whether each of them succeeds or fails.  A
provisioning hook may itself do what a run does.

The ledger of a plane evolves along a run (`Run.ledger_evolves`), so whatever `Ledger.Evolves`
carries holds of every run.  `InMemoryPlane.Reachable` are the planes that a run leads to from an
empty one whose identifiers are all different.
-/

namespace Preflight

open Preflight.Action

/-- The plane after a call, successful or not. -/
def Call.after (p : InMemoryPlane) : Call → InMemoryPlane
  | .listMachines app => ((ControlPlaneClient.listMachines app).from p).2
  | .listActiveMachines app => ((ControlPlaneClient.listActiveMachines app).from p).2
  | .listVolumes app => ((ControlPlaneClient.listVolumes app).from p).2
  | .latestReleaseImage app => ((ControlPlaneClient.latestReleaseImage app).from p).2
  | .createRelease input => ((ControlPlaneClient.createRelease input).from p).2
  | .updateRelease id status => ((ControlPlaneClient.updateRelease id status).from p).2

/-- An application of two groups, each of which mounts a volume of the same name. -/
def AppConfig.shop : AppConfig where
  appName := "shop"
  processes := .ofList [("web", "bin/web"), ("worker", "bin/worker")]
  mounts := [⟨"data", "/data", []⟩]

/-- The first deploy of an application, with an explicit image. -/
def DeploymentArgs.firstOfShop : DeploymentArgs :=
  { app := some ⟨"shop", false⟩, image := some "shop:1" }

namespace InMemoryPlane

/-! ## Runs -/

/-- Operations lead from the first plane to the second. -/
inductive Run : InMemoryPlane → InMemoryPlane → Prop where
  | refl (p : InMemoryPlane) : Run p p
  | addMachine {p q : InMemoryPlane} (app : String) (m : Machine) (h : Run p q) :
      Run p (q.addMachine app m)
  | addVolume {p q : InMemoryPlane} (app : String) (v : Volume) (h : Run p q) :
      Run p (q.addVolume app v)
  | seedRelease {p q : InMemoryPlane} (app image : String) (h : Run p q) :
      Run p (q.seedRelease app image)
  | failOperation {p q : InMemoryPlane} (op : Operation) (e : ControlPlaneError) (h : Run p q) :
      Run p (q.failOperation op e)
  | clearFailures {p q : InMemoryPlane} (h : Run p q) : Run p q.clearFailures
  | call {p q : InMemoryPlane} (call : Call) (h : Run p q) : Run p (call.after q)
  | prepare {p q : InMemoryPlane} (hook : ProvisionHook InMemoryPlane)
      (hhook : ∀ context s, Run s (hook.provision context s).2)
      (ambient : Option AppConfig) (args : DeploymentArgs) (h : Run p q) :
      Run p ((DeploymentPlan.prepare hook ambient args).from q).2
  | updateStatus {p q : InMemoryPlane} (id : String) (status : ReleaseStatus) (h : Run p q) :
      Run p ((ReleaseRecorder.update id status).from q).2
  | finalize {p q : InMemoryPlane} (plan : DeploymentPlan) (status : ReleaseStatus)
      (h : Run p q) : Run p ((plan.finalize status).from q).2

/-- A plane that operations lead to from an empty one, all identifiers being different. -/
def Reachable (p : InMemoryPlane) : Prop :=
  ∃ newId, Function.Injective newId ∧ Run (.empty newId) p

/-- Identifiers that tell versions apart by their length. -/
def tallyId (version : UInt64) : String := String.ofList (List.replicate version.toNat 'i')

theorem tallyId_injective : Function.Injective tallyId := by
  intro v w h
  have hlength := congrArg (fun s : String => s.toList.length) h
  simp only [tallyId, String.toList_ofList, List.length_replicate] at hlength
  exact UInt64.toNat_inj.1 hlength

theorem Run.reachable {p : InMemoryPlane} (h : Run (.empty tallyId) p) : p.Reachable :=
  ⟨tallyId, tallyId_injective, h⟩

/-- An application that was never deployed, with two free volumes of one name. -/
def newShop : InMemoryPlane :=
  ((InMemoryPlane.empty tallyId).addVolume "shop" (.fresh "vol_1" "data")).addVolume "shop"
    (.fresh "vol_2" "data")

theorem reachable_newShop : newShop.Reachable :=
  Run.reachable (.addVolume "shop" _ (.addVolume "shop" _ (.refl _)))

/-- A shop that was deployed by other means: a machine of the one group, a free volume for the
other, and no release yet. -/
def runningShop : InMemoryPlane :=
  let machine := ((Machine.started "m_1" "shop:1").managed "web").withMount
    ⟨"vol_1", "data", "/data"⟩
  ((InMemoryPlane.empty tallyId).addMachine "shop" machine).addVolume "shop"
    (.fresh "vol_2" "data")

theorem reachable_runningShop : runningShop.Reachable :=
  Run.reachable (.addVolume "shop" _ (.addMachine "shop" _ (.refl _)))

/-! ## The ledger along a run -/

/-- The ledger of the second plane evolves from that of the first. -/
def LedgerEvolves (p q : InMemoryPlane) : Prop := p.ledger.Evolves q.ledger

instance : IsPreorder InMemoryPlane LedgerEvolves where
  refl p := .refl p.ledger
  trans _ _ _ h₁ h₂ := h₁.trans h₂

theorem OnlyLogged.ledgerEvolves {p q : InMemoryPlane} (h : p.OnlyLogged q) :
    p.LedgerEvolves q := by
  obtain ⟨calls, rfl⟩ := h
  exact .refl _

theorem readsKeep_ledgerEvolves (app : String) : ReadsKeep LedgerEvolves app :=
  (readsKeep_onlyLogged app).mono fun _ _ => OnlyLogged.ledgerEvolves

theorem createRelease_keeps_ledgerEvolves (input : ReleaseInput) :
    Keeps LedgerEvolves (ControlPlaneClient.createRelease input) := by
  intro p
  rw [from_createRelease]
  split
  · rename_i r hr
    obtain ⟨-, hr⟩ := unlessFailing_ok_iff.1 hr
    obtain ⟨strategy, -, -, rfl⟩ := releaseOf_ok_iff.1 hr
    exact .insert _ _ _ _ (.refl _)
  · exact (onlyLogged_log p _).ledgerEvolves

theorem updateRelease_keeps_ledgerEvolves (id : String) (status : ReleaseStatus) :
    Keeps LedgerEvolves (ControlPlaneClient.updateRelease id status) := by
  intro p
  rw [from_updateRelease]
  split
  · rename_i hcheck
    obtain ⟨-, hcheck⟩ := unlessFailing_ok_iff.1 hcheck
    obtain ⟨r, hfound, hopen⟩ := checkUpdate_ok_iff.1 hcheck
    exact .setStatus id status hfound hopen (.refl _)
  · exact (onlyLogged_log p _).ledgerEvolves

theorem update_keeps_ledgerEvolves (id : String) (status : ReleaseStatus) :
    Keeps LedgerEvolves (ReleaseRecorder.update id status) := by
  unfold ReleaseRecorder.update
  split
  · exact keeps_adapt (updateRelease_keeps_ledgerEvolves id status)
  · exact keeps_throw _

theorem ledgerEvolves_after (call : Call) (p : InMemoryPlane) :
    p.LedgerEvolves (call.after p) := by
  cases call with
  | listMachines app => exact (readsKeep_ledgerEvolves app).listMachines p
  | listActiveMachines app => exact (readsKeep_ledgerEvolves app).listActiveMachines p
  | listVolumes app => exact (readsKeep_ledgerEvolves app).listVolumes p
  | latestReleaseImage app => exact (readsKeep_ledgerEvolves app).latestReleaseImage p
  | createRelease input => exact createRelease_keeps_ledgerEvolves input p
  | updateRelease id status => exact updateRelease_keeps_ledgerEvolves id status p

/-- Whatever is done to a plane, its ledger only takes insertions and updates of releases that
are not terminal. -/
theorem Run.ledger_evolves {p q : InMemoryPlane} (h : Run p q) : p.LedgerEvolves q := by
  induction h with
  | refl p => exact .refl p.ledger
  | addMachine _ _ _ ih => exact ih
  | addVolume _ _ _ ih => exact ih
  | seedRelease app image _ ih => exact .insert app .default image .succeeded ih
  | failOperation _ _ _ ih => exact ih
  | clearFailures _ ih => exact ih
  | call call _ ih => exact ih.trans (ledgerEvolves_after call _)
  | prepare hook _ ambient args _ ihhook ih =>
    have hkeeps := DeploymentPlan.prepare_keeps readsKeep_ledgerEvolves
      createRelease_keeps_ledgerEvolves ihhook ambient args
    exact ih.trans (hkeeps _)
  | updateStatus id status _ ih => exact ih.trans (update_keeps_ledgerEvolves id status _)
  | finalize plan status _ ih =>
    exact ih.trans (update_keeps_ledgerEvolves plan.release.id status _)

theorem Run.trans {p q r : InMemoryPlane} (hpq : Run p q) (hqr : Run q r) : Run p r := by
  induction hqr with
  | refl => exact hpq
  | addMachine app m _ ih => exact .addMachine app m (ih hpq)
  | addVolume app v _ ih => exact .addVolume app v (ih hpq)
  | seedRelease app image _ ih => exact .seedRelease app image (ih hpq)
  | failOperation op e _ ih => exact .failOperation op e (ih hpq)
  | clearFailures _ ih => exact .clearFailures (ih hpq)
  | call call _ ih => exact .call call (ih hpq)
  | prepare hook hhook ambient args _ _ ih => exact .prepare hook hhook ambient args (ih hpq)
  | updateStatus id status _ ih => exact .updateStatus id status (ih hpq)
  | finalize plan status _ ih => exact .finalize plan status (ih hpq)

end InMemoryPlane

end Preflight
