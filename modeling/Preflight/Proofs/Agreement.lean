import Preflight.Proofs.Views

/-!
# Planes that agree on an application

The stages of a preparation look at the machines and the volumes of one application, at its latest
image and at the failures that are set.  `InMemoryPlane.SameHoldings` relates planes that agree in
all of these but the image, and each stage that does not look at the image answers alike on them.
With the image they draft alike (`SameHoldings.drafted_eq`).  Nothing is asked of what the planes
hold of other applications.
-/

namespace Preflight

namespace InMemoryPlane

/-- The planes agree in the machines and the volumes of an application and in the failures that
are set. -/
structure SameHoldings (app : String) (p q : InMemoryPlane) : Prop where
  machines : q.machinesOf app = p.machinesOf app
  volumes : q.volumesOf app = p.volumesOf app
  failures : q.failures = p.failures

namespace SameHoldings

variable {p q : InMemoryPlane} {session : ControlPlaneSession}

theorem unlessFailing_eq {app : String} (h : SameHoldings app p q) {α : Type} (op : Operation)
    (answer : Except ControlPlaneError α) :
    q.unlessFailing op answer = p.unlessFailing op answer := by
  rw [unlessFailing, unlessFailing, h.failures]

/-! ## Stage by stage -/

theorem surveyed_eq (h : SameHoldings session.app.name p q) (config : AppConfig) :
    q.surveyed session config = p.surveyed session config := by
  simp only [surveyed, h.unlessFailing_eq, h.machines]

theorem surveyCalls_eq {app : String} (h : SameHoldings app p q) :
    q.surveyCalls app = p.surveyCalls app := by
  rw [surveyCalls, surveyCalls, h.failures, h.machines]

theorem reconciled_eq (h : SameHoldings session.app.name p q) (config : AppConfig) :
    q.reconciled session config = p.reconciled session config := by
  simp only [reconciled, h.unlessFailing_eq, h.volumes]

theorem resolved_eq (h : SameHoldings session.app.name p q)
    (himage : q.ledger.latestImage? session.app.name = p.ledger.latestImage? session.app.name)
    (explicit : Option String) (inventory : MachineInventory) :
    q.resolved explicit session inventory = p.resolved explicit session inventory := by
  simp only [resolved, h.unlessFailing_eq, himage]

end SameHoldings

/-- A hook that only reserves looks at nothing but what it is shown. -/
theorem provisioned_eq {hook : ProvisionHook InMemoryPlane} (hhook : hook.OnlyReserves)
    (p q : InMemoryPlane) (brief : Brief) (inventory : MachineInventory) (image : ResolvedImage)
    (listed : VolumeReservations) :
    q.provisioned hook brief inventory image listed =
      p.provisioned hook brief inventory image listed := by
  obtain ⟨outcome, houtcome, -⟩ := hhook ⟨brief.session, brief.config, image.reference, listed⟩
  unfold provisioned
  rw [houtcome]
  rfl

namespace SameHoldings

variable {p q : InMemoryPlane} {hook : ProvisionHook InMemoryPlane} {ambient : Option AppConfig}
  {args : DeploymentArgs} {app : String}

/-- With the same latest image the stages before the hook answer alike and make the same calls. -/
theorem outlook_eq (h : SameHoldings app p q)
    (happ : args.IsFor app) (himage : q.ledger.latestImage? app = p.ledger.latestImage? app) :
    q.outlook ambient args = p.outlook ambient args ∧
      q.outlookCalls ambient args = p.outlookCalls ambient args := by
  unfold outlook outlookCalls
  cases hbrief : Brief.ofRequest ambient args with
  | error e => exact ⟨rfl, rfl⟩
  | ok brief =>
    obtain rfl := happ.app_name_eq hbrief
    have hresolved := h.resolved_eq himage args.explicitImage
    simp only [callsAfter, bind, Except.bind, h.surveyed_eq, h.surveyCalls_eq, h.reconciled_eq,
      hresolved, and_self]

theorem drafted_eq (h : SameHoldings app p q) (hhook : hook.OnlyReserves)
    (happ : args.IsFor app) (himage : q.ledger.latestImage? app = p.ledger.latestImage? app) :
    q.drafted hook ambient args = p.drafted hook ambient args := by
  have hfrom : q.draftedFrom hook = p.draftedFrom hook := by
    funext o
    rw [draftedFrom, draftedFrom, provisioned_eq hhook p q]
  rw [InMemoryPlane.drafted_eq, InMemoryPlane.drafted_eq, (h.outlook_eq happ himage).1, hfrom]

end SameHoldings

end InMemoryPlane

end Preflight
