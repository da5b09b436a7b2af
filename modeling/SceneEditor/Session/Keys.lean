import SceneEditor.Session.Projects
import SceneEditor.Session.Timeline

namespace SceneEditor.Session

/-!
# Keys

A few keys are shortcuts to operations of the session.
-/

/-- What a key did. -/
inductive KeyAction where
  | undo
  | redo
  | save
  | saveAs
  | cancel
  | togglePlay
  deriving DecidableEq, Repr

/-- How the action of a key is called in answers. -/
def KeyAction.name : KeyAction → String
  | undo => "undo"
  | redo => "redo"
  | save => "save"
  | saveAs => "save_as"
  | cancel => "cancel"
  | togglePlay => "toggle_play"

/-- A key, alone or with the control key; the space bar is left to an input that has the focus. -/
def press (session : Session) (key : String) (control focused : Bool) :
    Outcome (Except NumberError (Option KeyAction)) :=
  let key := lowered key
  if control && key = "z" then
    { result := .ok (some .undo), session, effects := sent [.undo] }
  else if control && key = "y" then
    { result := .ok (some .redo), session, effects := sent [.redo] }
  else if control && key = "s" then
    session.save.map fun saved =>
      saved.map fun dispatched? => some (if dispatched?.isSome then .save else .saveAs)
  else if key = "escape" then
    { result := .ok (some .cancel), session := { session with build := session.build.cancel } }
  else if (key = " " || key = "space") && !focused then
    session.togglePlay.map fun _ => .ok (some .togglePlay)
  else session.only (.ok none)

end SceneEditor.Session
