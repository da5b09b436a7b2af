import SceneEditor.World.Basic

namespace SceneEditor

/-!
# Labels of points

A label shows nothing, the name of a point, or its name and its coordinates.
-/

/-- What labels show. -/
inductive LabelMode where
  | hidden
  | ids
  | coordinates
  deriving DecidableEq, Repr

namespace LabelMode

/-- The number by which a mode is told. -/
def code : LabelMode → Int
  | hidden => -1
  | ids => 0
  | coordinates => 1

/-- The mode of a number; all other numbers hide the labels. -/
def ofCode (code : Int) : LabelMode :=
  if code = 0 then ids else if code = 1 then coordinates else hidden

/-- A coordinate to one decimal, which is left out when it is a zero. -/
def coordinateText (coordinate : Binary64) : String :=
  let text := coordinate.fixedText 1
  match text.toList.reverse with
  | '0' :: '.' :: rest => String.ofList rest.reverse
  | _ => text

/-- The label of a point in a mode. -/
def label (mode : LabelMode) (id : Int) (x y z : Binary64) : String :=
  match mode with
  | hidden => ""
  | ids => pointRef id
  | coordinates =>
      pointRef id ++ " (" ++ coordinateText x ++ ", " ++ coordinateText y ++ ", "
        ++ coordinateText z ++ ")"

/-- The label of a point whose coordinates may be integers; they are only read where they show. -/
def labelOfNumbers (mode : LabelMode) (id : Int) (x y z : Num) : Except NumberError String :=
  match mode with
  | coordinates => do
      let x ← x.toReal
      let y ← y.toReal
      let z ← z.toReal
      return label mode id x y z
  | _ => .ok (label mode id 0 0 0)

end LabelMode

end SceneEditor
