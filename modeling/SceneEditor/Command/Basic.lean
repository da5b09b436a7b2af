import SceneEditor.World.Basic

namespace SceneEditor

/-!
# Commands

Every command that the server understands, and the one line of text that it travels as.  A command
is a call with arguments or a bare word; text that a user typed travels as it is.
-/

/-- A command to the server. -/
inductive Command where
  /-- Text that is forwarded as it stands. -/
  | raw (text : String)
  /-- A call without a name. -/
  | unnamed
  | addPoint (x y z : Num) (color : String)
  | connect (source target color : String) (thickness : Num)
  | addFace (pointIds : List Int) (color : String)
  | recolor (pointId : Int) (color : String)
  | move (pointId : Int) (x y z : Num)
  | delete (target : String)
  | addCollection (name : String) (pointIds : List Int)
  | addToCollection (name : String) (pointIds : List Int)
  | removeFromCollection (name : String) (pointIds : List Int)
  | renameCollection (oldName newName : String)
  | addClip
      (target kind : String)
      (startTime endTime : Num)
      (axis : String)
      (value : Num)
      (name? : Option String)
  | updateClip (id name : String) (startTime endTime : Binary64)
  | deleteClip (name : String)
  | deleteClipById (id : String)
  | play
  | pause
  | stop
  | seek (time : Num)
  | undo
  | redo
  | clear
  | saveProject (name : String)
  | loadProject (id : String)
  deriving DecidableEq, Repr

/-- Points as they stand in a command, in brackets. -/
def pointList (ids : List Int) : String :=
  "[" ++ commaList (ids.map pointRef) ++ "]"

namespace Command

/-- What a command looks like as a text. -/
inductive Shape where
  | verbatim (text : String)
  | word (name : String)
  | call (name : String) (arguments : List String)
  deriving DecidableEq, Repr

/-- The last argument of a clip with a name. -/
def clipNameArgument : Option String → List String
  | some name => if name.isEmpty then [] else ["\"" ++ name ++ "\""]
  | none => []

/-- The text of a time of a clip, which always has two decimals. -/
def clipTime (time : Binary64) : String :=
  time.fixedText 2

/-- How a command is written, with its arguments in their order. -/
def shape : Command → Shape
  | raw text => .verbatim text
  | unnamed => .call "" []
  | addPoint x y z color => .call "AddPoint" [x.wireText, y.wireText, z.wireText, color]
  | connect source target color thickness =>
      .call "Connect" [source, target, color, thickness.wireText]
  | addFace pointIds color => .call "AddFace" [pointList pointIds, color]
  | recolor pointId color => .call "Color" [pointRef pointId, color]
  | move pointId x y z =>
      .call "Move" [pointRef pointId, x.wireText, y.wireText, z.wireText]
  | delete target => .call "Delete" [target]
  | addCollection name pointIds => .call "AddCollection" [name, pointList pointIds]
  | addToCollection name pointIds => .call "AddToCollection" [name, pointList pointIds]
  | removeFromCollection name pointIds =>
      .call "RemoveFromCollection" [name, pointList pointIds]
  | renameCollection oldName newName => .call "RenameCollection" [oldName, newName]
  | addClip target kind startTime endTime axis value name? =>
      .call "AddClip"
        ([target, kind, startTime.wireText, endTime.wireText, axis, value.wireText]
          ++ clipNameArgument name?)
  | updateClip id name startTime endTime =>
      .call "UpdateClip" [id, name, clipTime startTime, clipTime endTime]
  | deleteClip name => .call "DeleteClip" [name]
  | deleteClipById id => .call "DeleteClipById" [id]
  | play => .word "Play"
  | pause => .word "Pause"
  | stop => .word "Stop"
  | seek time => .call "Seek" [time.wireText]
  | undo => .word "Undo"
  | redo => .word "Redo"
  | clear => .word "Clear"
  | saveProject name => .call "SaveProject" [name]
  | loadProject id => .call "LoadProject" [id]

/-- The text of a command: its name and, in parentheses, its arguments. -/
def Shape.text : Shape → String
  | verbatim text => text
  | word name => name
  | call name arguments => name ++ "(" ++ commaList arguments ++ ")"

/-- The text that a command travels as. -/
def wire (command : Command) : String :=
  command.shape.text

end Command

end SceneEditor
