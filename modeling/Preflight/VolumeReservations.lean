import Preflight.PreflightError

/-!
# Volume reservations

The volumes of an application that nothing holds, in one queue per name, in the order in which
they were listed.  Reserving takes the head of a queue, and is the only way in which reservations
change.
-/

namespace Preflight

/-- Free volumes by name. -/
structure VolumeReservations where
  queues : TextMap (List Volume)
  deriving DecidableEq, Repr, Inhabited

namespace VolumeReservations

/-- No free volume. -/
def empty : VolumeReservations := ⟨∅⟩

/-- The free volumes among those listed. -/
def ofVolumes (volumes : List Volume) : VolumeReservations :=
  ⟨.groupBy (·.name) (volumes.filter (·.isUnattached))⟩

/-- Take the next volume of a name; `none` when there is none left. -/
def reserve? (r : VolumeReservations) (name : String) : Option (Volume × VolumeReservations) :=
  match r.queues.listAt name with
  | [] => none
  | v :: rest => some (v, ⟨r.queues.insert name rest⟩)

/-- The number of free volumes of a name. -/
def queueLength (r : VolumeReservations) (name : String) : Nat := (r.queues.listAt name).length

/-- Whether a volume of a name is free. -/
def hasReservable (r : VolumeReservations) (name : String) : Bool := 0 < r.queueLength name

/-- The number of free volumes of each name that has any, sorted by name. -/
def counts (r : VolumeReservations) : List (String × Nat) :=
  (r.queues.entries.map fun e => (e.1, e.2.length)).filter (0 < ·.2)

/-- The number of all free volumes. -/
def total (r : VolumeReservations) : Nat := (r.queues.entries.map (·.2.length)).foldl (· + ·) 0

/-- The free volumes of the session's application.  Without a configured mount nothing is listed
and nothing can be reserved. -/
def reconcile {σ : Type} [ControlPlaneClient σ] (session : ControlPlaneSession)
    (config : AppConfig) : Action σ PreflightError VolumeReservations := do
  if config.hasMounts then
    return ofVolumes (← viaBackend session.listVolumes)
  else
    return empty

end VolumeReservations

end Preflight
