import Preflight.Json.Codec

/-!
# Volumes

Named durable storage.  Several volumes of an application may share a name; a volume can be given
to a new machine only while neither a machine nor an allocation holds it.
-/

namespace Preflight

/-- Named durable storage. -/
structure Volume where
  id : String
  name : String
  region : String := ""
  /-- Size in gigabytes. -/
  sizeGb : UInt32 := 0
  /-- The machine that holds the volume. -/
  attachedMachine : Option String := none
  /-- The allocation that holds the volume. -/
  attachedAllocation : Option String := none
  deriving DecidableEq, Repr, Inhabited

namespace Volume

/-- Whether nothing holds a volume. -/
def isUnattached (v : Volume) : Bool :=
  v.attachedMachine.isNone && v.attachedAllocation.isNone

/-- A free volume of the smallest size. -/
def fresh (id name : String) : Volume := { id, name, sizeGb := 1 }

/-- The volume held by a machine. -/
def attachedTo (v : Volume) (machine : String) : Volume :=
  { v with attachedMachine := some machine }

end Volume

instance : Codec Volume where
  encode v := .record [("id", encode v.id), ("name", encode v.name),
    ("region", encode v.region), ("size_gb", encode v.sizeGb),
    ("attached_machine", encode v.attachedMachine),
    ("attached_allocation", encode v.attachedAllocation)]
  decode j := do
    let ms ← j.members?
      ["id", "name", "region", "size_gb", "attached_machine", "attached_allocation"] 2
    let id ← required ms "id"
    let name ← required ms "name"
    let region ← withDefault ms "region" ""
    let sizeGb ← withDefault ms "size_gb" 0
    let attachedMachine ← withDefault ms "attached_machine" none
    let attachedAllocation ← withDefault ms "attached_allocation" none
    some ⟨id, name, region, sizeGb, attachedMachine, attachedAllocation⟩

end Preflight
