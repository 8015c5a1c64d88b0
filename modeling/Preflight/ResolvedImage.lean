import Preflight.MachineInventory

/-!
# The image to deploy

One source decides the image: the caller's explicit reference, else the latest release, else the
first existing machine that has one.  The control plane is asked only without an explicit
reference, and a failure of that call matters only when no machine helps out.
-/

namespace Preflight

/-- Where an image comes from. -/
inductive ImageSource where
  | explicit
  | latestRelease
  | existingMachine
  deriving DecidableEq, Repr, Inhabited

namespace ImageSource

/-- Every source. -/
def all : List ImageSource := [.explicit, .latestRelease, .existingMachine]

/-- The name of a source in documents. -/
def name : ImageSource → String
  | .explicit => "explicit"
  | .latestRelease => "latest_release"
  | .existingMachine => "existing_machine"

/-- A source for display. -/
def render : ImageSource → String
  | .explicit => "explicit"
  | .latestRelease => "latest release"
  | .existingMachine => "existing machine"

end ImageSource

/-- The image to deploy. -/
structure ResolvedImage where
  reference : String
  source : ImageSource
  deriving DecidableEq, Repr, Inhabited

namespace ResolvedImage

/-- The image of the first machine that has one. -/
def ofInventory (inventory : MachineInventory) (cause : Option ControlPlaneError) :
    Except PreflightError ResolvedImage :=
  match inventory.firstImage with
  | some image => .ok ⟨image, .existingMachine⟩
  | none => .error (.imageUnknown cause)

/-- The image once the control plane has answered for the latest release. -/
def ofAnswer (inventory : MachineInventory) (answer : Except ControlPlaneError (Option String)) :
    Except PreflightError ResolvedImage :=
  match answer with
  | .error e => ofInventory inventory (some e)
  | .ok image =>
    match nonEmpty image with
    | some image => .ok ⟨image, .latestRelease⟩
    | none => ofInventory inventory none

/-- The image for the session's application. -/
def resolve {σ : Type} [ControlPlaneClient σ] (explicit : Option String)
    (session : ControlPlaneSession) (inventory : MachineInventory) :
    Action σ PreflightError ResolvedImage :=
  match nonEmpty explicit with
  | some image => return ⟨image, .explicit⟩
  | none => do
    let answer ← ExceptT.lift session.latestReleaseImage.run
    liftExcept (ofAnswer inventory answer)

end ResolvedImage

/-! ## JSON forms -/

instance : Codec ImageSource where
  encode s := .text s.name
  decode := decodeVariant (ImageSource.all.map fun s => (s.name, s))

instance : Codec ResolvedImage where
  encode i := .record [("reference", encode i.reference), ("source", encode i.source)]
  decode j := do
    let ms ← j.members? ["reference", "source"] 2
    let reference ← required ms "reference"
    let source ← required ms "source"
    some ⟨reference, source⟩

end Preflight
