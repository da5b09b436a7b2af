import SceneEditor.Session.Basic

namespace SceneEditor.Session

/-!
# The timeline

Playing, seeking, and editing clips.  All of these are sent without being noted in the history.
-/

/-- Bring the editors of the clips in line with the world. -/
def refresh (session : Session) : Session :=
  { session with timeline := session.timeline.refresh session.world.clips }

/-- Play, or pause if the world is playing. -/
def togglePlay (session : Session) : Outcome Command :=
  let command : Command := if session.world.isPlaying then .pause else .play
  { result := command, session, effects := sent [command] }

/-- Stop playing. -/
def stop (session : Session) : Outcome Command :=
  { result := .stop, session, effects := sent [.stop] }

/-- Show a time ahead of the server. -/
def showTime (session : Session) (time : Binary64) : Session :=
  { session with replica := session.replica.showTime time }

/-- Go to a time, which is shown at once. -/
def seek (session : Session) (time : Binary64) : Outcome (Except NumberError Command) :=
  let target := session.timeline.clampTime time
  match target.toReal with
  | .error error => session.only (.error error)
  | .ok shown =>
      {
        result := .ok (.seek target)
        session := session.showTime shown
        effects := sent [.seek target]
      }

/-- How far the time has come, in percent. -/
def playhead (session : Session) : Except NumberError Num :=
  Track.percent (.real session.world.currentTime) session.timeline.settings.maxTime

/-- The time as it is shown. -/
def timeText (session : Session) : String :=
  session.world.currentTime.fixedText 2 ++ "s"

/-- Move the pointer, and send what the clips that are held come to. -/
def pointerMove (session : Session) (x : Num) : Outcome (Except NumberError Unit) :=
  let (timeline, commands, failure?) := session.timeline.pointerMove x
  {
    result := match failure? with
      | some error => .error error
      | none => .ok ()
    session := { session with timeline }
    effects := sent commands
  }

/-- Let the pointer go. -/
def pointerUp (session : Session) : Session :=
  { session with timeline := session.timeline.pointerUp }

/-- Take a clip by its body or by an edge. -/
def beginDrag (session : Session) (clipId : String) (grip : Grip) (x area : Num) :
    Outcome (Except NumberError Bool) :=
  let (timeline, result) := session.timeline.beginDrag clipId grip x area
  { result, session := { session with timeline } }

/-- Change the editor of a clip, if there is one. -/
def modifyClip (session : Session) (clipId : String) (change : ClipEditor → ClipEditor) :
    Session :=
  { session with timeline := session.timeline.modifyClip clipId change }

/-- Begin to rename a clip, if it is not held. -/
def beginRename (session : Session) (clipId : String) : Outcome Bool :=
  match session.timeline.editor? clipId with
  | none => session.only false
  | some editor =>
      {
        result := editor.beginRename.2
        session := session.modifyClip clipId fun editor => editor.beginRename.1
      }

/-- End renaming a clip, and send the name if it is a new one. -/
def commitRename (session : Session) (clipId : String) : Outcome (Option Command) :=
  match session.timeline.editor? clipId with
  | none => session.only none
  | some editor =>
      let renamed := session.modifyClip clipId fun editor => editor.commitRename.1
      renamed.sending editor.commitRename.2

/-- Delete a clip if the user agrees. -/
def deleteClip (session : Session) (clipId : String) (given? : Option Bool) : Outcome Bool :=
  match session.timeline.editor? clipId with
  | none => session.only false
  | some editor =>
      let (agreed, effects) := session.confirm given? (ClipEditor.deletePrompt editor.clip)
      {
        result := agreed
        session
        effects := effects ++ if agreed then sent [.deleteClipById editor.clip.id] else []
      }

end SceneEditor.Session
