import Preflight.Release

/-!
# The release ledger

The ledger holds every release of every application.  Releases are found by identifier; an index
lists the identifiers of each application in the order of creation; and one counter, shared by
all applications, gives each new release its version.

Identifiers come from `newId`, a function of the version.  Two releases have different
identifiers as long as `newId` is injective and the counter does not wrap around.

A ledger changes in two ways only: `Ledger.insert` appends a release, and `Ledger.setStatus`
changes the status of one.
-/

namespace Preflight

/-- The releases of all applications. -/
structure Ledger where
  /-- Every release, in the order of creation. -/
  releases : List Release
  /-- The identifiers of each application's releases, in the order of creation. -/
  byApp : TextMap (List String)
  /-- The version of the next release. -/
  nextVersion : UInt64
  /-- The identifier of the release of a given version. -/
  newId : UInt64 → String

namespace Ledger

/-- No releases; the first one gets version 1. -/
def empty (newId : UInt64 → String) : Ledger := ⟨[], ∅, 1, newId⟩

/-- The release with an identifier. -/
def release? (l : Ledger) (id : String) : Option Release := l.releases.find? (·.id == id)

/-- The releases of an application, in the order of creation. -/
def releasesFor (l : Ledger) (app : String) : List Release :=
  (l.byApp.listAt app).filterMap l.release?

/-- The release that `insert` adds. -/
def newRelease (l : Ledger) (app : String) (strategy : RolloutStrategy) (image : String)
    (status : ReleaseStatus) : Release :=
  ⟨l.newId l.nextVersion, l.nextVersion, app, strategy, image, status⟩

/-- Append a release of an application. -/
def insert (l : Ledger) (r : Release) : Ledger :=
  { l with
    releases := l.releases ++ [r]
    byApp := l.byApp.push r.appName r.id
    nextVersion := l.nextVersion + 1 }

/-- Change the status of the release with an identifier. -/
def setStatus (l : Ledger) (id : String) (status : ReleaseStatus) : Ledger :=
  { l with
    releases := l.releases.map fun r => if r.id == id then { r with status } else r }

/-- Of two releases the one with the greater version; the later one when they are equal. -/
def newer (best : Option Release) (r : Release) : Option Release :=
  match best with
  | none => some r
  | some b => if b.version ≤ r.version then some r else some b

/-- The release of an application with the greatest version. -/
def latest? (l : Ledger) (app : String) : Option Release :=
  (l.releasesFor app).foldl newer none

/-- The image of an application's latest release, if there is one with an image. -/
def latestImage? (l : Ledger) (app : String) : Option String :=
  ((l.latest? app).map (·.image)).filter (· != "")

end Ledger

end Preflight
