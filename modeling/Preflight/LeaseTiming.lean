import Preflight.Duration

/-!
# Lease timing

Whoever carries out a rollout holds a lease on each machine it changes and renews it in time.
`LeaseTiming` says how long to wait for a machine and how long a lease lasts; the time between
renewals follows from the latter: a third of what is left of it after one second.
-/

namespace Preflight

/-- How long to wait for machines and to hold leases on them. -/
structure LeaseTiming where
  /-- Time for a machine to reach its state. -/
  waitTimeout : Duration
  /-- Lifetime of a lease. -/
  leaseTimeout : Duration
  deriving DecidableEq, Repr, Inhabited

namespace LeaseTiming

/-- The timing when nothing else is asked for: two minutes and thirteen seconds. -/
def standard : LeaseTiming := ⟨.ofSeconds 120, .ofSeconds 13⟩

/-- A duration that is given and not zero, or else the default. -/
def nonZeroOr (given : Option Duration) (default : Duration) : Duration :=
  match given with
  | none => default
  | some d => if d.isZero then default else d

/-- The timing that a caller asks for. -/
def resolve (wait lease : Option Duration) : LeaseTiming :=
  ⟨nonZeroOr wait standard.waitTimeout, nonZeroOr lease standard.leaseTimeout⟩

/-- The time between two renewals of a lease. -/
def delayBetween (t : LeaseTiming) : Duration := t.leaseTimeout.minusOneSecond.third

/-- Whether the timing is the standard one, which needs no notice. -/
def isStandard (t : LeaseTiming) : Bool := t == standard

end LeaseTiming

end Preflight
