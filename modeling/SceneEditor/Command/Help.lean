import SceneEditor.Command.Basic
import SceneEditor.Text.Cut
import SceneEditor.Text.LetterCase

namespace SceneEditor

/-!
# Help on commands

The table of commands drives the help search and the suggestion that stands behind a
line while it is typed.
-/

/-- What the user is told about a command. -/
structure HelpEntry where
  /-- The name in small letters, which typed text is compared with. -/
  name : String
  usage : String
  description : String
  example? : Option Command := none
  deriving Repr

/-- The text of the example; a command without an example has an empty one. -/
def HelpEntry.exampleText (entry : HelpEntry) : String :=
  (entry.example?.map Command.wire).getD ""

/-- The entries in the order in which they are shown. -/
def helpTable : List HelpEntry :=
  [
    ⟨"addpoint", "AddPoint(x, y, z, color)", "Adds a point.",
      some (.addPoint 0 0 0 "#ffffff")⟩,
    ⟨"connect", "Connect(from, to, color, size)", "Connects points (p1 to p2 or list).",
      some (.connect "p0" "p1" "#ffffff" 3)⟩,
    ⟨"addface", "AddFace([ids], color)", "Creates a polygon.",
      some (.addFace [0, 1, 2] "#888888")⟩,
    ⟨"color", "Color(pID, color)", "Updates color.", some (.recolor 0 "#ff0000")⟩,
    ⟨"move", "Move(pID, x, y, z)", "Absolute move.", some (.move 0 5 5 5)⟩,
    ⟨"delete", "Delete(target)", "Removes point/face/link.", some (.delete "p0")⟩,
    ⟨"addcollection", "AddCollection(name, [ids])", "Creates group.",
      some (.addCollection "fal" [0, 1])⟩,
    ⟨"addtocollection", "AddToCollection(name, [ids])", "Adds to group.",
      some (.addToCollection "fal" [2])⟩,
    ⟨"removefromcollection", "RemoveFromCollection(name, [ids])", "Removes from group.",
      some (.removeFromCollection "fal" [0])⟩,
    ⟨"addclip", "AddClip(target, type, start, end, axis, val)", "Anim: Move p0 on Y by 5.",
      some (.addClip "p0" "Move" 0 5 "y" 5 (some "Name"))⟩,
    ⟨"updateclip", "UpdateClip(id, name, start, end)", "Updates a clip.", none⟩,
    ⟨"deleteclip", "DeleteClip(name)", "Removes clip by name.", some (.deleteClip "Move1")⟩,
    ⟨"deleteclipbyid", "DeleteClipById(id)", "Removes clip by ID.", none⟩,
    ⟨"play", "Play", "Starts timeline.", some .play⟩,
    ⟨"pause", "Pause", "Pauses timeline.", some .pause⟩,
    ⟨"seek", "Seek(seconds)", "Jumps to time.",
      some (.seek (.real (Binary64.ofDecimal false 25 (-1))))⟩,
    ⟨"stop", "Stop", "Stops/Resets everything.", some .stop⟩,
    ⟨"showindexes", "ShowIndexes(mode)", "0: ID, 1: Coords.", some (.raw "ShowIndexes(1)")⟩,
    ⟨"hideindexes", "HideIndexes", "Hides labels.", some (.raw "HideIndexes")⟩,
    ⟨"clear", "Clear", "Wipes world.", some .clear⟩,
    ⟨"renamecollection", "RenameCollection(old, new)", "Renames group.",
      some (.renameCollection "fal" "wall")⟩,
    ⟨"undo", "Undo", "Reverts the last change.", some .undo⟩,
    ⟨"redo", "Redo", "Reapplies an undone change.", some .redo⟩,
    ⟨"saveproject", "SaveProject(name)", "Saves the world on the server.",
      some (.saveProject "house")⟩,
    ⟨"loadproject", "LoadProject(id)", "Loads a saved project.", none⟩,
    ⟨"clearhistory", "ClearHistory", "Empties the local command history.",
      some (.raw "ClearHistory")⟩
  ]

namespace HelpEntry

/-- The first command whose name begins with a text, in whatever case that is written. -/
def find? (start : String) : Option HelpEntry :=
  let wanted := Text.lower start.toList
  helpTable.find? fun entry => (Text.after? wanted entry.name.toList).isSome

/-- The commands whose usage or description holds a text, in whatever case. -/
def search (term : String) : List HelpEntry :=
  let wanted := Text.lower term.toList
  helpTable.filter fun entry =>
    Text.occurs wanted (Text.lower entry.usage.toList)
      || Text.occurs wanted (Text.lower entry.description.toList)

end HelpEntry

/-- What a typed line may become: the usage of the first command that the line begins. -/
def suggestion (line : String) : String :=
  if line.isEmpty then ""
  else
    match HelpEntry.find? (lowered line) with
    | some entry => if entry.name = lowered line then "" else entry.usage
    | none => ""

end SceneEditor
