import Preflight.Json.Codec
import Preflight.Text

/-!
# Guest sizes

A machine's guest is a class of processor, a number of processors and an amount of memory.  Only
presets exist: each class offers a few processor counts, and memory is proportional to the count.
A preset is named by a size token such as `shared-cpu-2x` or `performance-16x`; the token is the
class prefix, a hyphen, the count in decimal without padding, and an `x`.

`GuestSpec.ofSize` accepts exactly the names that `GuestSpec.presetNames` lists.
-/

namespace Preflight

/-! ## Processor classes -/

/-- A class of processor. -/
inductive CpuKind where
  | shared
  | performance
  deriving DecidableEq, Repr, Inhabited

namespace CpuKind

/-- Every class, in the order in which presets are listed. -/
def all : List CpuKind := [.shared, .performance]

/-- The name of a class. -/
def name : CpuKind → String
  | .shared => "shared"
  | .performance => "performance"

/-- How size tokens of a class begin. -/
def sizeStem : CpuKind → String
  | .shared => "shared-cpu"
  | .performance => "performance"

/-- The processor counts a class offers. -/
def counts : CpuKind → List UInt32
  | .shared => [1, 2, 4, 8]
  | .performance => [1, 2, 4, 8, 16]

/-- Memory that comes with each processor, in megabytes. -/
def memoryPerCpu : CpuKind → UInt32
  | .shared => 256
  | .performance => 2048

end CpuKind

instance : Codec CpuKind where
  encode k := .text k.name
  decode := decodeVariant (CpuKind.all.map fun k => (k.name, k))

/-! ## Specifications -/

/-- The compute and memory of a machine. -/
structure GuestSpec where
  cpuKind : CpuKind
  cpus : UInt32
  /-- Memory in megabytes. -/
  memory : UInt32
  deriving DecidableEq, Repr, Inhabited

namespace GuestSpec

/-- The preset of a class and processor count. -/
def preset (kind : CpuKind) (cpus : UInt32) : GuestSpec :=
  ⟨kind, cpus, cpus * kind.memoryPerCpu⟩

/-- The size token of a class and processor count. -/
def sizeToken (kind : CpuKind) (cpus : UInt32) : String :=
  kind.sizeStem ++ "-" ++ toString cpus ++ "x"

/-- Every size token. -/
def presetNames : List String :=
  CpuKind.all.flatMap fun kind => kind.counts.map (sizeToken kind)

/-- The characters between the class stem with its hyphen and the final `x` of a size token. -/
def countDigits? (kind : CpuKind) (token : String) : Option (List Char) := do
  let rest ← dropLeading? (kind.sizeStem ++ "-").toList token.toList
  if rest.getLast? = some 'x' then some rest.dropLast else none

/-- The processor count that a size token of the given class names. -/
def countOfClass? (kind : CpuKind) (token : String) : Option UInt32 := do
  let digits ← countDigits? kind token
  kind.counts.find? fun n => (toString n).toList = digits

/-- A size token that names no preset. -/
structure SizeError where
  token : String
  deriving DecidableEq, Repr

/-- The wording of the error. -/
def SizeError.message (e : SizeError) : String :=
  "invalid machine size '" ++ e.token ++ "'; expected one of: "
    ++ ", ".intercalate presetNames

/-- The preset that a size token names. -/
def ofSize (token : String) : Except SizeError GuestSpec :=
  match CpuKind.all.findSome? fun kind =>
      (countOfClass? kind token).map (preset kind) with
  | some spec => .ok spec
  | none => .error ⟨token⟩

/-- The guest that a caller asks for; a blank token asks for none. -/
def ofToken (token : Option String) : Except SizeError (Option GuestSpec) :=
  match token with
  | none => .ok none
  | some token => if isBlank token then .ok none else (ofSize token).map some

/-- A specification with its memory, for display. -/
def render (spec : GuestSpec) : String :=
  sizeToken spec.cpuKind spec.cpus ++ " (" ++ toString spec.memory ++ " MB)"

end GuestSpec

instance : Codec GuestSpec where
  encode g := .record [("cpu_kind", encode g.cpuKind), ("cpus", encode g.cpus),
    ("memory_mb", encode g.memory)]
  decode j := do
    let ms ← j.members? ["cpu_kind", "cpus", "memory_mb"] 3
    let cpuKind ← required ms "cpu_kind"
    let cpus ← required ms "cpus"
    let memory ← required ms "memory_mb"
    some ⟨cpuKind, cpus, memory⟩

end Preflight
