import SceneEditor.Command.Help
import SceneEditor.Session.Materials
import SceneEditor.Session.Points
import SceneEditor.Session.Timeline
import SceneEditor.Text.Quoted

namespace SceneEditor.Panel

/-!
# What the panels show

Each panel shows its rows as lines with columns of fixed widths.
-/

/-- An entry of the help on its line. -/
def helpLine (entry : HelpEntry) : String :=
  let sample := entry.exampleText
  leftColumn 45 entry.usage ++ " " ++ entry.description
    ++ (if sample.isEmpty then "" else "   e.g. " ++ sample)

/-- The lines of all help entries, or of those that hold some words. -/
def helpLines (words : List String) : List String :=
  let entries := if words.isEmpty then helpTable else HelpEntry.search (" ".intercalate words)
  entries.map helpLine

/-- The label of a point; one without a label is shown by its name. -/
def pointLabel (labels : List (Int × String)) (id : Int) : String :=
  match labels.find? fun (known, label) => known == id && !label.isEmpty with
  | some (_, label) => label
  | none => pointRef id

/-- A point on its line, with its label if it has one. -/
def pointLine (labels : List (Int × String)) (point : Point) : String :=
  leftColumn 24 (pointLabel labels point.id) ++ " x=" ++ point.x.shortText ++ " y="
    ++ point.y.shortText ++ " z=" ++ point.z.shortText ++ " " ++ point.color

/-- All points of the world, each on a line. -/
def pointLines (session : Session) : List String :=
  session.world.points.map (pointLine session.labels)

/-- The marks of a material: that it is a duplicate, and that it is being built with. -/
def materialMarks (session : Session) (material : Material) : List String :=
  let isActive := session.activeMaterial?.any fun active => active.id == material.id
  (if session.catalog.isDuplicate material then ["DUPLICATE"] else [])
    ++ (if isActive then ["BUILDING"] else [])

/-- A material on its line; an integer thickness may be too large to be shown. -/
def materialLine (session : Session) (material : Material) : Except NumberError String := do
  let thickness ← material.thickness.toReal
  return material.id ++ "  " ++ leftColumn 16 material.name ++ " " ++ leftColumn 10 material.color
    ++ " " ++ thickness.shortText ++ "  " ++ material.price.shortText ++ "/m  "
    ++ " ".intercalate (materialMarks session material)

/-- All materials, each on a line. -/
def materialLines (session : Session) : Except NumberError (List String) :=
  session.catalog.materials.mapM (materialLine session)

/-- A row of the bill on its line. -/
def billLine (row : BillRow) : String :=
  leftColumn 16 row.material.name ++ " " ++ rightColumn 10 (row.length.fixedText 2) ++ " m "
    ++ rightColumn 10 (row.cost.fixedText 2) ++ (if row.isDuplicate then " (duplicate)" else "")

/-- The rows of the bill, and a line for the total. -/
def billLines (bill : Bill) : List String :=
  bill.rows.map billLine
    ++ [leftColumn 16 "TOTAL" ++ " " ++ rightColumn 12 "" ++ " "
      ++ rightColumn 10 (bill.total.fixedText 2)]

/-- A clip on its line, behind the label of its row. -/
def clipLine (label : String) (clip : Clip) : String :=
  leftColumn 6 label ++ " " ++ clip.id ++ "  " ++ leftColumn 16 clip.name ++ " "
    ++ clip.startTime.fixedText 2 ++ "s - " ++ clip.endTime.fixedText 2 ++ "s"

/-- The lines of the timeline, for a session whose editors are in line with the clips. -/
def clipLines (session : Session) : List String :=
  let clips := session.world.clips
  let state := if session.world.isPlaying then "playing" else "paused"
  let rows := session.timeline.rows clips
  ["time " ++ session.timeText ++ " " ++ state]
    ++ (if clips.isEmpty then ["No clips yet. Use AddClip(...)"] else [])
    ++ rows.flatMap fun row => row.members.map fun editor => clipLine row.label editor.clip

end SceneEditor.Panel
