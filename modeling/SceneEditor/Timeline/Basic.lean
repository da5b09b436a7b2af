import SceneEditor.Timeline.ClipEditor
import SceneEditor.Timeline.PointerHub

namespace SceneEditor

/-!
# The timeline

The timeline holds one editor for each clip of the world, which it brings in line with the clips
before it shows or uses one.  An editor is named by its place among all editors ever made: a drag
goes on with the editor that it began on, even when the clip is gone and comes back.
-/

/-- Who is told of a drag: an editor, with the grip and the times of the clip when it began. -/
structure ClipDrag where
  editor : Nat
  grip : Grip
  origin : Track.Span
  deriving DecidableEq, Repr

/-- The editors ever made, the places of those of the current clips, and the pointer hub. -/
structure Timeline where
  settings : TimelineSettings := {}
  hub : PointerHub ClipDrag := {}
  editors : List ClipEditor := []
  live : List (String × Nat) := []
  deriving Repr

/-- The clips of one target. -/
structure TimelineRow (α : Type) where
  targetId : Int
  members : List α
  deriving DecidableEq, Repr

/-- The label of a row: the point that its clips move. -/
def TimelineRow.label (row : TimelineRow α) : String :=
  pointRef row.targetId

namespace Timeline

/-- Where the editor of a clip is kept. -/
def place? (timeline : Timeline) (id : String) : Option Nat :=
  (timeline.live.find? fun (known, _) => known == id).map Prod.snd

/-- The editor of a clip that is shown. -/
def editor? (timeline : Timeline) (id : String) : Option ClipEditor := do
  timeline.editors[← timeline.place? id]?

/-- Change the editor at a place. -/
def modify (timeline : Timeline) (place : Nat) (change : ClipEditor → ClipEditor) : Timeline :=
  { timeline with editors := timeline.editors.modify place change }

/-- Change the editor of a clip, if there is one. -/
def modifyClip (timeline : Timeline) (id : String) (change : ClipEditor → ClipEditor) :
    Timeline :=
  match timeline.place? id with
  | some place => timeline.modify place change
  | none => timeline

/-- Give a clip its record, in a new editor if it has none. -/
def enlist (timeline : Timeline) (clip : Clip) : Timeline :=
  match timeline.place? clip.id with
  | some place => timeline.modify place fun editor => editor.refresh clip
  | none =>
      { timeline with
        editors := timeline.editors ++ [ClipEditor.of clip]
        live := timeline.live ++ [(clip.id, timeline.editors.length)] }

/-- Bring the editors in line with the current clips. -/
def refresh (timeline : Timeline) (clips : List Clip) : Timeline :=
  let live := timeline.live.filter fun (id, _) => clips.any fun clip => clip.id == id
  clips.foldl enlist { timeline with live }

/-- The clips of each target, the targets in the order in which they first occur. -/
def rowsOf (clips : List Clip) : List (TimelineRow Clip) :=
  ((clips.map Clip.targetId).eraseDups).map fun targetId =>
    { targetId, members := clips.filter fun clip => clip.targetId == targetId }

/-- The editors of clips in rows, one row for each point. -/
def rows (timeline : Timeline) (clips : List Clip) : List (TimelineRow ClipEditor) :=
  (rowsOf clips).map fun row =>
    { targetId := row.targetId, members := row.members.filterMap fun clip =>
        timeline.editor? clip.id }

/-- Begin to drag an idle clip; the area is measured once, now. -/
def beginDrag
    (timeline : Timeline)
    (id : String)
    (grip : Grip)
    (x area : Num) :
    Timeline × Except NumberError Bool :=
  match timeline.place? id, timeline.editor? id with
  | some place, some editor =>
      if editor.state = .idle then
        let held := timeline.modify place fun editor => editor.hold grip
        match Track.width area timeline.settings.gutter with
        | .error error => (held, .error error)
        | .ok trackWidth =>
            let gesture : Gesture ClipDrag := {
              startX := x
              trackWidth
              maxTime := timeline.settings.maxTime
              owner := { editor := place, grip, origin := editor.confirmed }
            }
            let made := held.hub.make gesture
            ({ held with hub := made.start held.hub.gestures.length }, .ok true)
      else (timeline, .ok false)
  | _, _ => (timeline, .ok false)

/-- What the listeners of a move change: the editors, and the commands that were sent so far. -/
structure MoveState where
  editors : List ClipEditor
  sent : List Command := []
  deriving Repr

/-- A drag hears of a move: the clip gets new times from those it had when the drag began. -/
def dragMoved
    (settings : TimelineSettings)
    (x : Num)
    (gesture : Gesture ClipDrag)
    (state : MoveState) :
    MoveState × Option NumberError :=
  let drag := gesture.owner
  match state.editors[drag.editor]? with
  | none => (state, none)
  | some editor =>
      let result := do
        let delta ← gesture.secondsAt x
        editor.preview (← drag.grip.move settings drag.origin delta)
      match result with
      | .error error => (state, some error)
      | .ok (changed, command) =>
          ({ editors := state.editors.set drag.editor changed, sent := state.sent ++ [command] },
            none)

/-- A move of the pointer, and the commands that the running drags send. -/
def pointerMove (timeline : Timeline) (x : Num) :
    Timeline × List Command × Option NumberError :=
  let (state, failure?) :=
    timeline.hub.pointerMove (dragMoved timeline.settings x) { editors := timeline.editors }
  ({ timeline with editors := state.editors }, state.sent, failure?)

/-- A drag hears of the release of the pointer: the clip is let go. -/
def dragEnded (gesture : Gesture ClipDrag) (editors : List ClipEditor) :
    List ClipEditor × Option Empty :=
  (editors.modify gesture.owner.editor ClipEditor.letGo, none)

/-- The release of the pointer, which ends all running drags. -/
def pointerUp (timeline : Timeline) : Timeline :=
  let ((hub, editors), _) := timeline.hub.pointerUp dragEnded timeline.editors
  { timeline with hub, editors }

/-- A time on the track: no less than zero and no more than the span. -/
def clampTime (timeline : Timeline) (time : Binary64) : Num :=
  ((Num.real time).max (.real 0)).min timeline.settings.maxTime

end Timeline

end SceneEditor
