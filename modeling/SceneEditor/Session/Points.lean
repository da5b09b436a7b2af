import SceneEditor.Session.Basic

namespace SceneEditor.Session

/-!
# The table of points

Points are shown with their labels; their coordinates and colors are edited in place.  These edits
are sent without being noted in the history.
-/

/-- The labels of the points; of points with one id the last one counts, at the first place. -/
def labels (session : Session) : List (Int × String) :=
  let mode := session.dispatcher.labelMode
  let ids := (session.world.points.map Point.id).eraseDups
  ids.filterMap fun id =>
    (Point.last? session.world.points id).map fun point =>
      (id, mode.label id point.x point.y point.z)

/-- The coordinate that a user typed, if the value is a finite number. -/
def coordinate? (value : Json) : Except NumberError (Option Binary64) := do
  return (← value.typed?).filter Binary64.isFinite

/--
The move of a point to typed coordinates, unless one is no number or none changed.  Coordinates of
which one is no number are left out together.
-/
def moveTo? (point : Point) (x y z : Json) : Except NumberError (Option Command) := do
  let x? ← coordinate? x
  let y? ← coordinate? y
  let z? ← coordinate? z
  match x?, y?, z? with
  | some x, some y, some z =>
      if x.equals point.x && y.equals point.y && z.equals point.z then return none
      else return some (.move point.id (.real x) (.real y) (.real z))
  | _, _, _ => (Json.array [x, y, z]).discarded

/-- Move a point to coordinates that may be given as texts, unless it is there already. -/
def editPoint (session : Session) (id : Int) (x y z : Json) :
    Outcome (Except NumberError (Option Command)) :=
  match session.world.point? id with
  | none => session.only (.ok none)
  | some point =>
      match moveTo? point x y z with
      | .error error => session.only (.error error)
      | .ok command? => (session.sending command?).map .ok

/-- Give a point another color, unless it has that color already. -/
def editColor (session : Session) (id : Int) (color : String) : Outcome (Option Command) :=
  match session.world.point? id with
  | none => session.only none
  | some point =>
      if Color.normalize color = Color.normalize point.color then session.only none
      else session.sending (some (.recolor id color))

/-- What is asked before a point is deleted. -/
def deletePointPrompt (id : Int) : String :=
  "Delete point " ++ pointRef id ++ "?"

/-- Delete a point if the user agrees. -/
def deletePoint (session : Session) (id : Int) (given? : Option Bool) : Outcome Bool :=
  let (agreed, effects) := session.confirm given? (deletePointPrompt id)
  {
    result := agreed
    session
    effects := effects ++ if agreed then sent [.delete (pointRef id)] else []
  }

end SceneEditor.Session
