import SceneEditor.Command.Basic
import SceneEditor.Timeline.Settings

namespace SceneEditor

/-!
# Editing a clip

A clip is renamed, or it is dragged by its body or one of its edges; the two exclude each other.
Each change is sent as a command and shows only in a preview, until the server confirms it.
-/

/-- Where a clip is held. -/
inductive Grip where
  | body
  | leftEdge
  | rightEdge
  deriving DecidableEq, Repr

/-- What is being done with a clip. -/
inductive ClipState where
  | idle
  | naming
  | gripped (grip : Grip)
  deriving DecidableEq, Repr

/-- How a state is called in answers. -/
def ClipState.name : ClipState → String
  | idle => "idle"
  | naming => "renaming"
  | gripped .body => "dragging"
  | gripped .leftEdge => "resizing_left"
  | gripped .rightEdge => "resizing_right"

/-- The edge of a name. -/
def Grip.ofEdge? : String → Option Grip
  | "left" => some leftEdge
  | "right" => some rightEdge
  | _ => none

/-- The wording of the error for an edge that is none. -/
def Grip.unknownEdge (edge : String) : String :=
  "Unknown clip edge: " ++ edge

/-- The times of a clip after its grip was moved by some seconds. -/
def Grip.move (grip : Grip) (settings : TimelineSettings) (span : Track.Span) (delta : Num) :
    Except NumberError Track.Span :=
  match grip with
  | .body => Track.shift span delta
  | .leftEdge => Track.resizeLeft span delta settings.shortest
  | .rightEdge => Track.resizeRight span delta settings.shortest

/-- A clip as it was last confirmed, and what is being done with it. -/
structure ClipEditor where
  clip : Clip
  typedName : String
  state : ClipState := .idle
  hovered : Bool := false
  preview? : Option Track.Span := none
  deriving Repr

namespace ClipEditor

/-- The editor of a clip, at rest. -/
def of (clip : Clip) : ClipEditor where
  clip := clip
  typedName := clip.name

/-- The times that the server has confirmed. -/
def confirmed (editor : ClipEditor) : Track.Span where
  start := .real editor.clip.startTime
  stop := .real editor.clip.endTime

/-- Take the record that the server sent last; a name that is being typed stays. -/
def refresh (editor : ClipEditor) (clip : Clip) : ClipEditor where
  clip := clip
  typedName := if editor.state = .naming then editor.typedName else clip.name
  state := editor.state
  hovered := editor.hovered
  preview? := editor.preview?

/-- Begin to rename, if the clip is at rest. -/
def beginRename (editor : ClipEditor) : ClipEditor × Bool :=
  if editor.state = .idle then
    ({ editor with state := .naming, typedName := editor.clip.name }, true)
  else (editor, false)

/-- Type a name while the clip is renamed. -/
def typeName (editor : ClipEditor) (name : String) : ClipEditor :=
  if editor.state = .naming then { editor with typedName := name } else editor

/-- The command that gives the clip the typed name and some times. -/
def update (editor : ClipEditor) (startTime endTime : Binary64) : Command :=
  .updateClip editor.clip.id editor.typedName startTime endTime

/-- End renaming, with a command if the name changed. -/
def commitRename (editor : ClipEditor) : ClipEditor × Option Command :=
  if editor.state = .naming then
    ({ editor with state := .idle },
      if editor.typedName = editor.clip.name then none
      else some (editor.update editor.clip.startTime editor.clip.endTime))
  else (editor, none)

/-- End renaming with the name that the clip has. -/
def cancelRename (editor : ClipEditor) : ClipEditor :=
  if editor.state = .naming then
    { editor with state := .idle, typedName := editor.clip.name }
  else editor

/-- Take the clip by its body or an edge. -/
def hold (editor : ClipEditor) (grip : Grip) : ClipEditor :=
  { editor with state := .gripped grip }

/-- Show times that are not confirmed yet, and send them. -/
def preview (editor : ClipEditor) (span : Track.Span) :
    Except NumberError (ClipEditor × Command) := do
  let startTime ← span.start.toReal
  let endTime ← span.stop.toReal
  return ({ editor with preview? := some span }, editor.update startTime endTime)

/-- Let the clip go, and forget what was shown of it. -/
def letGo (editor : ClipEditor) : ClipEditor :=
  { editor with state := .idle, preview? := none }

/-- What is asked before a clip is deleted. -/
def deletePrompt (clip : Clip) : String :=
  "Delete clip \"" ++ clip.name ++ "\"?"

/-- The clip is held by its body or an edge. -/
def isGripped (editor : ClipEditor) : Bool :=
  match editor.state with
  | .gripped _ => true
  | _ => false

/-- The times that are shown: those of the drag, or else the confirmed ones. -/
def times (editor : ClipEditor) : Track.Span :=
  editor.preview?.getD editor.confirmed

/-- The left edge and the width of the clip in percent of the track. -/
def geometry (editor : ClipEditor) (settings : TimelineSettings) :
    Except NumberError (Num × Num) := do
  let left ← Track.percent editor.times.start settings.maxTime
  let duration ← editor.times.stop.sub editor.times.start
  return (left, ← Track.percent duration settings.maxTime)

/-- The texts of the two times, which show while the pointer is on the clip or holds it. -/
def tooltips (editor : ClipEditor) : Except NumberError (Option (String × String)) := do
  if editor.state = .naming || !(editor.hovered || editor.isGripped) then return none
  else
    let start ← Track.secondsText editor.times.start
    let stop ← Track.secondsText editor.times.stop
    return some (start, stop)

end ClipEditor

end SceneEditor
