import SceneEditor.Command.Basic
import SceneEditor.Material.Catalog

namespace SceneEditor

/-!
# Building with a material

While a material is armed, two clicks on different points connect them: the first click notes the
start, the second makes the connection.  The color and the thickness are those that the
material had when it was armed.  A duplicate cannot be armed.
-/

/-- What is armed, and the point of the first click. -/
structure BuildMode where
  armed? : Option (String × Num) := none
  pending? : Option Int := none
  deriving DecidableEq, Repr

namespace BuildMode

/-- A material is armed. -/
def isArmed (mode : BuildMode) : Bool :=
  mode.armed?.isSome

/-- The material has the color and the thickness that are armed. -/
def isActive (mode : BuildMode) (material : Material) : Bool :=
  match mode.armed? with
  | some (color, thickness) =>
      color == material.color && thickness.agrees material.thickness
  | none => false

/-- A material that may not be armed. -/
structure DuplicateError where
  name : String
  deriving DecidableEq, Repr

/-- The wording of an error. -/
def DuplicateError.message (error : DuplicateError) : String :=
  s!"Material '{error.name}' duplicates another catalog entry"

/-- Arm a material, or disarm it if it is the one that is armed. -/
def toggle
    (mode : BuildMode)
    (catalog : Catalog)
    (material : Material) :
    Except DuplicateError BuildMode :=
  if catalog.isDuplicate material then .error ⟨material.name⟩
  else if mode.isActive material then .ok {}
  else .ok { armed? := some (material.color, material.thickness) }

/-- Forget the first click. -/
def cancel (mode : BuildMode) : BuildMode :=
  { mode with pending? := none }

/-- A click on a point, and the connection that it makes. -/
def click (mode : BuildMode) (pointId : Int) : BuildMode × Option Command :=
  match mode.armed?, mode.pending? with
  | none, _ => (mode, none)
  | some _, none => ({ mode with pending? := some pointId }, none)
  | some (color, thickness), some start =>
      if start = pointId then (mode, none)
      else
        (mode.cancel, some (.connect (pointRef start) (pointRef pointId) color thickness))

/-- The material that is shown as being built with. -/
def activeMaterial? (mode : BuildMode) (catalog : Catalog) : Option Material :=
  mode.armed?.bind fun (color, thickness) => catalog.findKey? (.of color thickness)

end BuildMode

end SceneEditor
