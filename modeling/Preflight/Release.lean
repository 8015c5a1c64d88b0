import Preflight.Json.Codec
import Preflight.Strategy
import Preflight.Timestamp

/-!
# Releases

A release records one deployment attempt.  It is created with the status `created` and moves to
a terminal status once the attempt is over.

`Release` is what the ledger keeps; `ReleaseRecord` is a release as it is stored elsewhere, with
the times of its creation and last change; `ReleaseInput` is the request that creates one.
-/

namespace Preflight

/-! ## Status -/

/-- How far a release has come. -/
inductive ReleaseStatus where
  | created
  | succeeded
  | failed
  deriving DecidableEq, Repr, Inhabited

namespace ReleaseStatus

/-- Every status. -/
def all : List ReleaseStatus := [.created, .succeeded, .failed]

/-- The name of a status. -/
def name : ReleaseStatus → String
  | .created => "created"
  | .succeeded => "succeeded"
  | .failed => "failed"

/-- Whether the attempt is over. -/
def isTerminal : ReleaseStatus → Bool
  | .created => false
  | .succeeded | .failed => true

end ReleaseStatus

/-! ## Releases -/

/-- One deployment attempt. -/
structure Release where
  id : String
  version : UInt64
  appName : String
  strategy : RolloutStrategy
  image : String
  status : ReleaseStatus
  deriving DecidableEq, Repr, Inhabited

/-- A release with its times. -/
structure ReleaseRecord extends Release where
  createdAt : Timestamp
  updatedAt : Timestamp
  deriving DecidableEq, Repr

/-- A request to create a release. -/
structure ReleaseInput where
  /-- The application the release belongs to. -/
  appId : String
  platformVersion : String
  /-- Ledger name of the strategy. -/
  strategy : String
  /-- The configuration of the application as a document. -/
  definition : Json
  image : String
  deriving Repr, Inhabited

/-- The platform version of releases made by this deployment path. -/
def ReleaseInput.platform : String := "machines"

/-! ## JSON forms -/

instance : Codec ReleaseStatus where
  encode s := .text s.name
  decode := decodeVariant (ReleaseStatus.all.map fun s => (s.name, s))

instance : Codec Timestamp where
  encode t := .text t.render
  decode j := (decode j).bind Timestamp.parse?

instance : Codec ReleaseRecord where
  encode r := .record [("id", encode r.id), ("version", encode r.version),
    ("app_name", encode r.appName), ("strategy", encode r.strategy), ("image", encode r.image),
    ("status", encode r.status), ("created_at", encode r.createdAt),
    ("updated_at", encode r.updatedAt)]
  decode j := do
    let ms ← j.members? ["id", "version", "app_name", "strategy", "image", "status",
      "created_at", "updated_at"] 8
    let id ← required ms "id"
    let version ← required ms "version"
    let appName ← required ms "app_name"
    let strategy ← required ms "strategy"
    let image ← required ms "image"
    let status ← required ms "status"
    let createdAt ← required ms "created_at"
    let updatedAt ← required ms "updated_at"
    some ⟨⟨id, version, appName, strategy, image, status⟩, createdAt, updatedAt⟩

instance : Codec ReleaseInput where
  encode i := .record [("app_id", encode i.appId),
    ("platform_version", encode i.platformVersion), ("strategy", encode i.strategy),
    ("definition", i.definition), ("image", encode i.image)]
  decode j := do
    let ms ← j.members? ["app_id", "platform_version", "strategy", "definition", "image"] 5
    let appId ← required ms "app_id"
    let platformVersion ← required ms "platform_version"
    let strategy ← required ms "strategy"
    let definition ← required ms "definition"
    let image ← required ms "image"
    some ⟨appId, platformVersion, strategy, definition, image⟩

end Preflight
