import Preflight.ControlPlane.Call
import Preflight.ControlPlane.Ledger

/-!
# A control plane in memory

`InMemoryPlane` keeps the machines, volumes and releases of any number of applications and
answers the calls of `ControlPlaneClient` from them.

It keeps a log of every call, successful or not, and it can be told to fail an operation: while a
failure is set, a call of the operation answers it and changes nothing but the log.
-/

namespace Preflight

/-! ## The plane -/

/-- A control plane kept in memory. -/
structure InMemoryPlane where
  /-- The machines of each application. -/
  machines : TextMap (List Machine)
  /-- The volumes of each application. -/
  volumes : TextMap (List Volume)
  ledger : Ledger
  /-- The failure set for an operation. -/
  failures : Operation → Option ControlPlaneError
  /-- Every call made, in order. -/
  calls : List Call

namespace InMemoryPlane

/-- A plane without applications, calls or failures. -/
def empty (newId : UInt64 → String) : InMemoryPlane :=
  ⟨∅, ∅, .empty newId, fun _ => none, []⟩

/-- Add a machine of an application. -/
def addMachine (p : InMemoryPlane) (app : String) (m : Machine) : InMemoryPlane :=
  { p with machines := p.machines.push app m }

/-- Add a volume of an application. -/
def addVolume (p : InMemoryPlane) (app : String) (v : Volume) : InMemoryPlane :=
  { p with volumes := p.volumes.push app v }

/-- Add a release to the ledger. -/
def insertRelease (p : InMemoryPlane) (r : Release) : InMemoryPlane :=
  { p with ledger := p.ledger.insert r }

/-- The release that `seedRelease` records. -/
def seeded (p : InMemoryPlane) (app image : String) : Release :=
  p.ledger.newRelease app .default image .succeeded

/-- Record a finished release of an application. -/
def seedRelease (p : InMemoryPlane) (app image : String) : InMemoryPlane :=
  p.insertRelease (p.seeded app image)

/-- Make later calls of an operation fail. -/
def failOperation (p : InMemoryPlane) (op : Operation) (e : ControlPlaneError) :
    InMemoryPlane :=
  { p with failures := fun o => if o = op then some e else p.failures o }

/-- Let every operation succeed again. -/
def clearFailures (p : InMemoryPlane) : InMemoryPlane := { p with failures := fun _ => none }

/-- The number of calls of an operation, as a counter that wraps. -/
def callCount (p : InMemoryPlane) (op : Operation) : UInt64 :=
  .ofNat (p.calls.countP (·.operation == op))

/-- The number of calls of all operations. -/
def totalCalls (p : InMemoryPlane) : UInt64 := (Operation.all.map p.callCount).foldl (· + ·) 0

/-! ## Answering calls -/

/-- Log a call and fail it if a failure is set for its operation. -/
def enter (call : Call) : Action InMemoryPlane ControlPlaneError Unit := do
  let p ← get
  set { p with calls := p.calls ++ [call] }
  match p.failures call.operation with
  | some e => throw e
  | none => pure ()

/-- The managed machines that are alive, the first one for the release command set apart. -/
def listingOf (machines : List Machine) : MachineListing :=
  let kept := machines.filter fun m => m.isManaged && m.isActive
  ⟨kept.filter fun m => !m.isReleaseCommand, kept.find? (·.isReleaseCommand)⟩

/-- Every machine that is alive, except those for the release command. -/
def activeOf (machines : List Machine) : List Machine :=
  machines.filter fun m => m.isActive && !m.isReleaseCommand

/-- The release that a request creates. -/
def releaseOf (p : InMemoryPlane) (input : ReleaseInput) : Except ControlPlaneError Release :=
  match RolloutStrategy.ofLedgerName? input.strategy with
  | none => .error (.invalidRequest ("unknown release strategy '" ++ input.strategy ++ "'"))
  | some strategy =>
    if input.image = "" then .error (.invalidRequest "release image cannot be empty")
    else .ok (p.ledger.newRelease input.appId strategy input.image .created)

/-- Whether a release may change its status. -/
def checkUpdate (p : InMemoryPlane) (id : String) : Except ControlPlaneError Unit :=
  match p.ledger.release? id with
  | none => .error (.releaseNotFound id)
  | some r =>
    if r.status.isTerminal then
      .error (.invalidRequest ("release " ++ id ++ " is already " ++ r.status.name))
    else .ok ()

/-- The machines of an application. -/
def machinesOf (p : InMemoryPlane) (app : String) : List Machine := p.machines.listAt app

/-- The volumes of an application. -/
def volumesOf (p : InMemoryPlane) (app : String) : List Volume := p.volumes.listAt app

instance : ControlPlaneClient InMemoryPlane where
  listMachines app := do
    enter (.listMachines app)
    return listingOf ((← get).machinesOf app)
  listActiveMachines app := do
    enter (.listActiveMachines app)
    return activeOf ((← get).machinesOf app)
  listVolumes app := do
    enter (.listVolumes app)
    return (← get).volumesOf app
  latestReleaseImage app := do
    enter (.latestReleaseImage app)
    return (← get).ledger.latestImage? app
  createRelease input := do
    enter (.createRelease input)
    let release ← liftExcept ((← get).releaseOf input)
    modify (·.insertRelease release)
    return release
  updateRelease id status := do
    enter (.updateRelease id status)
    liftExcept ((← get).checkUpdate id)
    modify fun p => { p with ledger := p.ledger.setStatus id status }

end InMemoryPlane

end Preflight
