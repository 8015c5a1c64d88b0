import Preflight.Json.Codec

/-!
# Machines

A machine is one running unit of an application as the platform reports it.  Its metadata says
whether this deployment path manages it and which process group it belongs to; its state says
whether it still counts as alive.
-/

namespace Preflight

/-- A volume mounted on a machine. -/
structure MachineMount where
  /-- Identifier of the volume. -/
  volume : String
  /-- Name of the volume. -/
  name : String := ""
  path : String := ""
  deriving DecidableEq, Repr, Inhabited

/-- A machine as the platform reports it. -/
structure Machine where
  id : String
  name : String := ""
  region : String := ""
  state : String := ""
  image : String
  metadata : TextMap String := ∅
  mounts : List MachineMount := []
  deriving DecidableEq, Repr, Inhabited

namespace Machine

/-! ## Metadata -/

/-- Metadata key of the platform version. -/
def platformVersionKey : String := "hangar_platform_version"

/-- Metadata key of the process group. -/
def processGroupKey : String := "hangar_process_group"

/-- Platform version of managed machines. -/
def managedVersion : String := "v2"

/-- Process group of the machine that runs the release command. -/
def releaseCommandGroup : String := "hangar_release_command"

/-- The process group that a machine's metadata names, empty when it names none. -/
def processGroup (m : Machine) : String := (m.metadata.get? processGroupKey).getD ""

/-- Whether this deployment path manages a machine. -/
def isManaged (m : Machine) : Bool := m.metadata.get? platformVersionKey == some managedVersion

/-- Whether a machine exists to run the release command. -/
def isReleaseCommand (m : Machine) : Bool := m.processGroup == releaseCommandGroup

/-- Whether a machine still counts as alive. -/
def isActive (m : Machine) : Bool :=
  !(m.state == "destroyed" || m.state == "destroying" || m.state == "replacing")

/-! ## Mounts -/

/-- Whether a machine mounts a volume. -/
def hasMounts (m : Machine) : Bool := !m.mounts.isEmpty

/-- The mount of a machine that counts. -/
def primaryMount (m : Machine) : Option MachineMount := m.mounts.head?

/-! ## Construction -/

/-- A started machine without metadata or mounts. -/
def started (id image : String) : Machine := { id, image, state := "started" }

/-- The machine marked as managed and assigned to a group. -/
def managed (m : Machine) (group : String) : Machine :=
  { m with metadata :=
      (m.metadata.insert platformVersionKey managedVersion).insert processGroupKey group }

/-- The machine with one more mount. -/
def withMount (m : Machine) (mount : MachineMount) : Machine :=
  { m with mounts := m.mounts ++ [mount] }

end Machine

/-! ## JSON forms -/

instance : Codec MachineMount where
  encode m := .record [("volume", encode m.volume), ("name", encode m.name),
    ("path", encode m.path)]
  decode j := do
    let ms ← j.members? ["volume", "name", "path"] 1
    let volume ← required ms "volume"
    let name ← withDefault ms "name" ""
    let path ← withDefault ms "path" ""
    some ⟨volume, name, path⟩

instance : Codec Machine where
  encode m := .record [("id", encode m.id), ("name", encode m.name),
    ("region", encode m.region), ("state", encode m.state), ("image", encode m.image),
    ("metadata", encode m.metadata), ("mounts", encode m.mounts)]
  decode j := do
    let ms ← j.members? ["id", "name", "region", "state", "image", "metadata", "mounts"] 5
    let id ← required ms "id"
    let name ← withDefault ms "name" ""
    let region ← withDefault ms "region" ""
    let state ← withDefault ms "state" ""
    let image ← required ms "image"
    let metadata ← withDefault ms "metadata" ∅
    let mounts ← withDefault ms "mounts" []
    some ⟨id, name, region, state, image, metadata, mounts⟩

end Preflight
