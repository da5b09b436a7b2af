import SceneEditor.Json.Basic

namespace SceneEditor

/-!
# The world

What the server last said about the scene: points in space, connections and faces between them,
named collections of points, and the clips that move points along the timeline.
-/

/-- A point of the scene. -/
structure Point where
  id : Int
  x : Binary64
  y : Binary64
  z : Binary64
  color : String
  deriving DecidableEq, Repr

/-- A connection between two points. -/
structure Connection where
  fromId : Int
  toId : Int
  color : String
  thickness : Binary64
  deriving DecidableEq, Repr

/-- A polygon between points. -/
structure Face where
  pointIds : List Int
  color : String
  deriving DecidableEq, Repr

/-- A position in space. -/
structure Position where
  x : Binary64
  y : Binary64
  z : Binary64
  deriving DecidableEq, Repr

/-- A clip of the timeline, which moves its target between two times. -/
structure Clip where
  id : String
  name : String
  targetId : Int
  kind : String
  startTime : Binary64
  endTime : Binary64
  axis : Json
  value? : Option Binary64
  startPosition? : Option Position
  endPosition? : Option Position
  deriving Repr

/-- Everything that is known of the scene. -/
structure World where
  points : List Point := []
  connections : List Connection := []
  faces : List Face := []
  collections : List (String × List Int) := []
  currentTime : Binary64 := 0
  isPlaying : Bool := false
  clips : List Clip := []
  deriving Repr

/-- The last point of an id, which is the one that counts where labels and lengths are made. -/
def Point.last? (points : List Point) (id : Int) : Option Point :=
  points.reverse.find? fun point => point.id == id

/-- The text that refers to a point. -/
def pointRef (id : Int) : String :=
  "p" ++ toString id

/--
The two connections agree in every field.  Thicknesses agree when they are equal or when
neither is a number.
-/
def Connection.agrees (left right : Connection) : Bool :=
  left.fromId == right.fromId && left.toId == right.toId
    && left.color == right.color && left.thickness.agrees right.thickness

/-- Two lists of connections agree place by place. -/
def connectionsAgree : List Connection → List Connection → Bool
  | [], [] => true
  | left :: lefts, right :: rights => left.agrees right && connectionsAgree lefts rights
  | _, _ => false

/-- How long a clip lasts. -/
def Clip.duration (clip : Clip) : Binary64 :=
  clip.endTime.sub clip.startTime

namespace World

/-- The first point of an id. -/
def point? (world : World) (id : Int) : Option Point :=
  world.points.find? fun point => point.id == id

/-- The first clip of an id. -/
def clip? (world : World) (id : String) : Option Clip :=
  world.clips.find? fun clip => clip.id == id

end World

end SceneEditor
