import SceneEditor.Panel.Basic
import SceneEditor.Proofs.Material.Overflow
import SceneEditor.Proofs.Session.Run

namespace SceneEditor

/-!
# Turns at the prompt

Messages come in and lines are typed, in any order.  A line does nothing to a session but actions, so
what turns reach is reached by a run, and has every invariant of runs.
-/

namespace Panel

/-- The actions that carry out an order. -/
def Order.actions (session : Session) (agrees : Bool) : Order → List Session.Action
  | .help _ | .showPoints | .showMaterials | .showBill => []
  | .movePoint id x y z => [.editPoint id (.string x) (.string y) (.string z)]
  | .recolor id color => [.editColor id color]
  | .deletePoint id => [.deletePoint id (some agrees)]
  | .addMaterial => [.addMaterial]
  | .updateMaterial id field value => [.updateMaterial id field (.string value)]
  | .build id => [.selectBuild id]
  | .click id => [.click id]
  | .showClips => [.refresh]
  | .deleteClip id => [.onClip id (.delete (some agrees))]
  | .togglePlay => [.togglePlay]
  | .stop => [.stop]
  | .seek time => [.seek (.number (.real time))]
  | .undo => [.press "z" true false]
  | .redo => [.press "y" true false]
  | .newProject => [.newProject (some agrees)]
  | .save => [.save]
  | .saveAs name => [.saveAs name session.projectName?.isNone]
  | .load id name? => [.loadProject id name?]

/-- The actions that carry out a line. -/
def Line.actions (session : Session) (agrees : Bool) : Line → List Session.Action
  | .command text => [.type text, .submit]
  | .order given => given.actions session agrees
  | .blank | .quit | .unknown _ | .faulty _ => []

/-- An attempt leaves the session of its outcome. -/
theorem attempted_session
    (outcome : Outcome (Except NumberError α))
    (lines : α → List String) :
    (attempted outcome lines).session = outcome.session := by
  unfold attempted
  split <;> rfl

/-- Showing lines leaves the session as it is. -/
theorem showingAll_session
    (session : Session)
    (lines : Except NumberError (List String)) :
    (showingAll session lines).session = session := by
  cases lines with
  | ok lines =>
      rfl
  | error error =>
      rfl

/-- An edit at the panel leaves the session of the edit. -/
theorem updateMaterial_session
    (session : Session)
    (id field value : String) :
    (updateMaterial session id field value).session =
      (session.updateMaterial id field (.string value)).session := by
  unfold updateMaterial
  dsimp only
  split <;> rfl

/-- A deletion at the panel leaves the session of the deletion. -/
theorem deleteClip_session
    (session : Session)
    (id : String)
    (agrees : Bool) :
    (deleteClip session id agrees).session =
      (session.refresh.deleteClip id (some agrees)).session := by
  unfold deleteClip Session.deleteClip
  dsimp only
  cases session.refresh.timeline.editor? id with
  | none =>
      rfl
  | some editor =>
      rfl

theorem finish_session (outcome : Outcome Result) :
    (finish outcome).session = outcome.session := by
  unfold finish
  split <;> rfl

/-- An order does to the session what its actions do. -/
theorem perform_session
    (session : Session)
    (agrees : Bool)
    (order : Order) :
    (perform session agrees order).session = session.run (order.actions session agrees) := by
  cases order with
  | help | showPoints | showClips | togglePlay | stop | addMaterial =>
      rfl
  | recolor | deletePoint | build | click =>
      rfl
  | showMaterials | showBill =>
      exact showingAll_session session _
  | movePoint | seek | undo | redo | save | saveAs | load =>
      exact attempted_session _ _
  | newProject =>
      exact attempted_session (session.newProject (some agrees)) _
  | updateMaterial id field value =>
      exact updateMaterial_session session id field value
  | deleteClip id =>
      exact deleteClip_session session id agrees

/-- A line leaves the session behind the actions that it is read as. -/
theorem handle_session
    (session : Session)
    (agrees : Bool)
    (line : String) :
    (handle session agrees line).session =
      session.run ((Line.read line).actions session agrees) := by
  unfold handle
  cases Line.read line with
  | blank | quit | unknown | faulty =>
      rfl
  | command text =>
      rfl
  | order given =>
      exact (finish_session _).trans (perform_session session agrees given)

end Panel

/-- A message that comes in, or a line that is typed with the answer to its question. -/
inductive Turn where
  | message (message : Message)
  | line (agrees : Bool) (text : String)
  deriving Repr

namespace Session

/-- The session after a turn. -/
def afterTurn (session : Session) : Turn → Session
  | .message message => (session.receive message).session
  | .line agrees text => (Panel.handle session agrees text).session

/-- Take one turn after another. -/
def takeTurns (session : Session) (turns : List Turn) : Session :=
  turns.foldl afterTurn session

/-- A turn comes to some actions. -/
theorem exists_run_afterTurn
    (session : Session)
    (turn : Turn) :
    ∃ actions, session.afterTurn turn = session.run actions := by
  cases turn with
  | message message =>
      exact ⟨[.receive message], rfl⟩
  | line agrees text =>
      exact ⟨_, Panel.handle_session session agrees text⟩

/-- What turns reach is reached by a run. -/
theorem exists_run_takeTurns
    (session : Session)
    (turns : List Turn) :
    ∃ actions, session.takeTurns turns = session.run actions := by
  induction turns generalizing session with
  | nil =>
      exact ⟨[], rfl⟩
  | cons turn rest inductionHypothesis =>
      obtain ⟨first, reached⟩ := session.exists_run_afterTurn turn
      obtain ⟨later, reachedLater⟩ := inductionHypothesis (session.afterTurn turn)
      refine ⟨first ++ later, ?_⟩
      calc session.takeTurns (turn :: rest)
          = (session.afterTurn turn).takeTurns rest := rfl
        _ = (session.afterTurn turn).run later := reachedLater
        _ = (session.run first).run later := by rw [reached]
        _ = session.run (first ++ later) := (session.run_append first later).symm

/-!
## What every session has that is reached
-/

/-- Each step keeps the thicknesses bounded. -/
theorem Step.thicknessWithin
    {session later : Session}
    {action : Action}
    (step : Step session action later)
    (within : session.catalog.ThicknessWithin) :
    later.catalog.ThicknessWithin := by
  cases step with
  | quiet still kept =>
      rw [kept.catalog]
      exact within
  | @merged message snapshot held =>
      cases changed :
          connectionsAgree (session.merged snapshot).world.connections
            session.world.connections with
      | true =>
          rw [merged_catalog_of_unchanged changed]
          exact within
      | false =>
          rw [merged_catalog_of_changed changed]
          exact within.noteConnections _
  | dropped refused =>
      exact within
  | sought target =>
      exact within
  | added =>
      exact within.addMaterial
  | edited edit =>
      exact within.update edit

/-- The integer thicknesses stay bounded in any session from the start. -/
theorem thicknessWithin_run
    (answer? : Option Bool)
    (settings : TimelineSettings)
    (actions : List Action) :
    ((fresh answer? settings).run actions).catalog.ThicknessWithin := by
  have kept
      (session : Session)
      (action : Action)
      (_ : action ∈ actions)
      (within : session.catalog.ThicknessWithin) :
      (session.after action).catalog.ThicknessWithin :=
    (session.step_after action).thicknessWithin within
  exact run_induction kept (Catalog.thicknessWithin_nil 1)

end Session

end SceneEditor
