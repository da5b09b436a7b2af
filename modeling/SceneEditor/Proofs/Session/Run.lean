import SceneEditor.Proofs.World.Snapshot
import SceneEditor.Session.Keys
import SceneEditor.Session.Materials
import SceneEditor.Session.Points

namespace SceneEditor

/-!
# Runs of a session

An action is a message from the server or one thing that the user does.  A run takes the actions in
their order, and any order is a run.

Most actions touch neither the world nor the catalog: what the user types, moves or deletes is only
sent.  The frame lemmas say this once for every operation, so that an invariant of the world or of
the catalog needs to look only at the few actions that are left.
-/

namespace Timeline

/-!
## The settings of the timeline
-/

theorem modifyClip_settings
    (timeline : Timeline)
    (id : String)
    (change : ClipEditor → ClipEditor) :
    (timeline.modifyClip id change).settings = timeline.settings := by
  unfold modifyClip
  split <;> rfl

theorem enlist_settings
    (timeline : Timeline)
    (clip : Clip) :
    (timeline.enlist clip).settings = timeline.settings := by
  unfold enlist
  split <;> rfl

theorem refresh_settings
    (timeline : Timeline)
    (clips : List Clip) :
    (timeline.refresh clips).settings = timeline.settings := by
  have enlisted (start : Timeline) : (clips.foldl enlist start).settings = start.settings := by
    induction clips generalizing start with
    | nil =>
        rfl
    | cons clip rest inductionHypothesis =>
        exact (inductionHypothesis (start.enlist clip)).trans (enlist_settings start clip)
  exact enlisted _

theorem beginDrag_settings
    (timeline : Timeline)
    (id : String)
    (grip : Grip)
    (x area : Num) :
    (timeline.beginDrag id grip x area).1.settings = timeline.settings := by
  unfold beginDrag
  split
  · split
    · dsimp only
      split <;> rfl
    · rfl
  · rfl

end Timeline

/-- What the user does with the editor of one clip. -/
inductive ClipAction where
  | beginRename
  | typeName (name : String)
  | commitRename
  | cancelRename
  | hover (hovered : Bool)
  | beginDrag (grip : Grip) (x area : Num)
  | delete (given? : Option Bool)
  deriving Repr

/-- A message from the server, or what the user does. -/
inductive Session.Action where
  | receive (message : Message)
  | answerWith (answer? : Option Bool)
  | dispatch (line : String)
  | type (text : String)
  | browseUp
  | browseDown
  | accept
  | submit
  | editPoint (id : Int) (x y z : Json)
  | editColor (id : Int) (color : String)
  | deletePoint (id : Int) (given? : Option Bool)
  | addToCollection (name range : String)
  | removeFromCollection (name : String) (id : Int)
  | createCollection (name : String)
  | renameCollection (oldName newName : String)
  | newProject (given? : Option Bool)
  | save
  | saveAs (name : String) (adopt : Bool)
  | loadProject (id : String) (name? : Option String)
  | addMaterial
  | updateMaterial (id field : String) (value : Json)
  | toggleBuild (material : Material)
  | selectBuild (id : String)
  | disarm
  | click (id : Int)
  | press (key : String) (control focused : Bool)
  | togglePlay
  | stop
  | seek (time : Json)
  | refresh
  | onClip (id : String) (action : ClipAction)
  | pointerMove (x : Num)
  | pointerUp
  deriving Repr

/-- An outcome without its result. -/
def Outcome.done (outcome : Outcome α) : Outcome Unit :=
  outcome.map fun _ => ()

@[simp] theorem Outcome.done_session (outcome : Outcome α) :
    outcome.done.session = outcome.session :=
  rfl

namespace Session

/-- A session at its start: nothing is known of the world, and nothing was done. -/
def fresh (answer? : Option Bool) (settings : TimelineSettings) : Session where
  answer? := answer?
  timeline := { settings }

/-- Do something with the editor of a clip, which is there. -/
def performOnClip (session : Session) (id : String) : ClipAction → Outcome Unit
  | .beginRename => (session.beginRename id).done
  | .typeName name => (session.modifyClip id fun editor => editor.typeName name).only ()
  | .commitRename => (session.commitRename id).done
  | .cancelRename => (session.modifyClip id ClipEditor.cancelRename).only ()
  | .hover hovered => (session.modifyClip id fun editor => { editor with hovered }).only ()
  | .beginDrag grip x area => (session.beginDrag id grip x area).done
  | .delete given? => (session.deleteClip id given?).done

/-- Carry out an action; the editors are brought in line with the clips before one is used. -/
def perform (session : Session) : Action → Outcome Unit
  | .receive message => (session.receive message).done
  | .answerWith answer? => { session with answer? }.only ()
  | .dispatch line => (session.dispatch line).done
  | .type text => (session.type text).only ()
  | .browseUp => session.browseUp.only ()
  | .browseDown => session.browseDown.only ()
  | .accept => session.accept.done
  | .submit => session.submit.done
  | .editPoint id x y z => (session.editPoint id x y z).done
  | .editColor id color => (session.editColor id color).done
  | .deletePoint id given? => (session.deletePoint id given?).done
  | .addToCollection name range => (session.addToCollection name range).done
  | .removeFromCollection name id => (session.removeFromCollection name id).done
  | .createCollection name => (session.createCollection name).done
  | .renameCollection oldName newName => (session.renameCollection oldName newName).done
  | .newProject given? => (session.newProject given?).done
  | .save => session.save.done
  | .saveAs name adopt => (session.saveAs name adopt).done
  | .loadProject id name? => (session.loadProject id name?).done
  | .addMaterial => session.addMaterial.done
  | .updateMaterial id field value => (session.updateMaterial id field value).done
  | .toggleBuild material => (session.toggleBuild material).done
  | .selectBuild id => (session.selectBuild id).done
  | .disarm => session.disarm.only ()
  | .click id => (session.click id).done
  | .press key control focused => (session.press key control focused).done
  | .togglePlay => session.togglePlay.done
  | .stop => session.stop.done
  | .seek time =>
      match time.toReal with
      | .ok real => (session.seek real).done
      | .error _ => session.only ()
  | .refresh => session.refresh.only ()
  | .onClip id action => session.refresh.performOnClip id action
  | .pointerMove x => (session.pointerMove x).done
  | .pointerUp => session.pointerUp.only ()

/-- The session after one action. -/
def after (session : Session) (action : Action) : Session :=
  (session.perform action).session

/-- Carry out one action after another. -/
def run (session : Session) (actions : List Action) : Session :=
  actions.foldl after session

theorem run_append
    (session : Session)
    (first later : List Action) :
    session.run (first ++ later) = (session.run first).run later :=
  List.foldl_append

/-- What every action preserves is preserved by every run. -/
theorem run_induction
    {invariant : Session → Prop}
    {actions : List Action}
    (kept :
      ∀ session action,
        action ∈ actions → invariant session → invariant (session.after action))
    {session : Session}
    (holds : invariant session) :
    invariant (session.run actions) := by
  induction actions generalizing session with
  | nil =>
      exact holds
  | cons action rest inductionHypothesis =>
      apply inductionHypothesis
      · intro current later member
        exact kept current later (List.mem_cons_of_mem action member)
      · exact kept session action List.mem_cons_self holds

/-!
## The frame
-/

/-- The world, the count of dropped messages, the catalog and the settings are the same. -/
structure KeepsScene (before after : Session) : Prop where
  replica : after.replica = before.replica
  catalog : after.catalog = before.catalog
  settings : after.timeline.settings = before.timeline.settings

theorem KeepsScene.refl (session : Session) :
    KeepsScene session session :=
  ⟨rfl, rfl, rfl⟩

theorem KeepsScene.trans
    {first second third : Session}
    (before : KeepsScene first second)
    (later : KeepsScene second third) :
    KeepsScene first third where
  replica := later.replica.trans before.replica
  catalog := later.catalog.trans before.catalog
  settings := later.settings.trans before.settings

theorem KeepsScene.world
    {before after : Session}
    (kept : KeepsScene before after) :
    after.world = before.world :=
  congrArg Replica.world kept.replica

/-- The world, the count of dropped messages, the catalog and the timeline are the same. -/
structure KeepsStage (before after : Session) : Prop where
  replica : after.replica = before.replica
  catalog : after.catalog = before.catalog
  timeline : after.timeline = before.timeline

theorem KeepsStage.refl (session : Session) :
    KeepsStage session session :=
  ⟨rfl, rfl, rfl⟩

theorem KeepsStage.trans
    {first second third : Session}
    (before : KeepsStage first second)
    (later : KeepsStage second third) :
    KeepsStage first third where
  replica := later.replica.trans before.replica
  catalog := later.catalog.trans before.catalog
  timeline := later.timeline.trans before.timeline

/-- What keeps the stage keeps the scene. -/
theorem KeepsStage.scene
    {before after : Session}
    (kept : KeepsStage before after) :
    KeepsScene before after where
  replica := kept.replica
  catalog := kept.catalog
  settings := congrArg Timeline.settings kept.timeline

/-- The stage is the same, and so is what is built with. -/
structure KeepsTools (before after : Session) : Prop extends KeepsStage before after where
  build : after.build = before.build

theorem KeepsTools.refl (session : Session) :
    KeepsTools session session :=
  ⟨KeepsStage.refl session, rfl⟩

theorem KeepsTools.trans
    {first second third : Session}
    (before : KeepsTools first second)
    (later : KeepsTools second third) :
    KeepsTools first third where
  toKeepsStage := before.toKeepsStage.trans later.toKeepsStage
  build := later.build.trans before.build

/-- What keeps the tools may follow an operation that keeps it. -/
theorem KeepsTools.onSuccess
    {session : Session}
    {outcome : Outcome (Except ε α)}
    (kept : KeepsTools session outcome.session)
    {change : Session → Session}
    (keeps : ∀ later, KeepsTools later (change later)) :
    KeepsTools session (outcome.onSuccess change).session := by
  unfold Outcome.onSuccess
  split
  · exact kept.trans (keeps outcome.session)
  · exact kept

/-- A line is sent and noted in the history, and no more. -/
theorem keepsTools_dispatch
    (session : Session)
    (line : String) :
    KeepsTools session (session.dispatch line).session := by
  unfold dispatch
  split
  · exact KeepsTools.refl session
  · exact ⟨⟨rfl, rfl, rfl⟩, rfl⟩

theorem keepsTools_submit (session : Session) :
    KeepsTools session session.submit.session := by
  have kept := keepsTools_dispatch session session.prompt.text
  unfold submit
  dsimp only
  split
  · exact ⟨⟨kept.replica, kept.catalog, kept.timeline⟩, kept.build⟩
  · exact kept

theorem keepsTools_dispatchCommand
    (session : Session)
    (command : Command) :
    KeepsTools session (session.dispatchCommand command).session :=
  keepsTools_dispatch session command.wire

theorem keepsTools_addToCollection
    (session : Session)
    (name range : String) :
    KeepsTools session (session.addToCollection name range).session := by
  unfold addToCollection
  split
  · exact KeepsTools.refl session
  · exact KeepsTools.refl session
  · exact keepsTools_dispatchCommand session _

theorem keepsTools_removeFromCollection
    (session : Session)
    (name : String)
    (id : Int) :
    KeepsTools session (session.removeFromCollection name id).session := by
  unfold removeFromCollection
  exact keepsTools_dispatchCommand session _

theorem keepsTools_createCollection
    (session : Session)
    (name : String) :
    KeepsTools session (session.createCollection name).session := by
  unfold createCollection
  split
  · exact KeepsTools.refl session
  · exact keepsTools_dispatchCommand session _

theorem keepsTools_renameCollection
    (session : Session)
    (oldName newName : String) :
    KeepsTools session (session.renameCollection oldName newName).session := by
  unfold renameCollection
  split
  · exact KeepsTools.refl session
  · exact keepsTools_dispatchCommand session _

theorem keepsTools_newProject
    (session : Session)
    (given? : Option Bool) :
    KeepsTools session (session.newProject given?).session := by
  have kept := keepsTools_dispatchCommand session .clear
  unfold newProject
  -- the line is not to be computed when the two sessions are compared
  generalize session.dispatchCommand .clear = cleared at kept ⊢
  generalize session.confirm given? newProjectPrompt = answer
  rcases answer with ⟨agreed, effects⟩
  cases agreed with
  | false =>
      exact KeepsTools.refl session
  | true =>
      exact kept.onSuccess fun _ => ⟨⟨rfl, rfl, rfl⟩, rfl⟩

theorem keepsTools_save (session : Session) :
    KeepsTools session session.save.session := by
  unfold save
  split
  · exact KeepsTools.refl session
  · split
    · exact KeepsTools.refl session
    · exact keepsTools_dispatchCommand session _

theorem keepsTools_saveAs
    (session : Session)
    (name : String)
    (adopt : Bool) :
    KeepsTools session (session.saveAs name adopt).session := by
  have saved := keepsTools_dispatchCommand session (.saveProject name)
  unfold saveAs
  split
  · exact KeepsTools.refl session
  · dsimp only
    split
    · exact saved.onSuccess fun _ => ⟨⟨rfl, rfl, rfl⟩, rfl⟩
    · exact saved

theorem keepsTools_loadProject
    (session : Session)
    (id : String)
    (name? : Option String) :
    KeepsTools session (session.loadProject id name?).session := by
  have loaded := keepsTools_dispatchCommand session (.loadProject id)
  exact loaded.onSuccess fun _ => ⟨⟨rfl, rfl, rfl⟩, rfl⟩

theorem keepsTools_editPoint
    (session : Session)
    (id : Int)
    (x y z : Json) :
    KeepsTools session (session.editPoint id x y z).session := by
  unfold editPoint
  split
  · exact KeepsTools.refl session
  · split <;> exact KeepsTools.refl session

theorem keepsTools_editColor
    (session : Session)
    (id : Int)
    (color : String) :
    KeepsTools session (session.editColor id color).session := by
  unfold editColor
  split
  · exact KeepsTools.refl session
  · split <;> exact KeepsTools.refl session

theorem keepsStage_toggleBuild
    (session : Session)
    (material : Material) :
    KeepsStage session (session.toggleBuild material).session := by
  unfold toggleBuild
  split
  · exact KeepsStage.refl session
  · exact ⟨rfl, rfl, rfl⟩

theorem keepsStage_selectBuild
    (session : Session)
    (id : String) :
    KeepsStage session (session.selectBuild id).session := by
  unfold selectBuild
  split
  · exact KeepsStage.refl session
  · split
    · exact ⟨rfl, rfl, rfl⟩
    · exact KeepsStage.refl session

theorem keepsStage_press
    (session : Session)
    (key : String)
    (control focused : Bool) :
    KeepsStage session (session.press key control focused).session := by
  unfold press
  dsimp only
  split
  · exact KeepsStage.refl session
  split
  · exact KeepsStage.refl session
  split
  · exact (keepsTools_save session).toKeepsStage
  split
  · exact ⟨rfl, rfl, rfl⟩
  split <;> exact KeepsStage.refl session

theorem keepsScene_timeline
    (session : Session)
    {timeline : Timeline}
    (settings : timeline.settings = session.timeline.settings) :
    KeepsScene session { session with timeline } :=
  ⟨rfl, rfl, settings⟩

theorem keepsScene_refresh (session : Session) :
    KeepsScene session session.refresh :=
  keepsScene_timeline session (session.timeline.refresh_settings session.world.clips)

theorem keepsScene_modifyClip
    (session : Session)
    (id : String)
    (change : ClipEditor → ClipEditor) :
    KeepsScene session (session.modifyClip id change) :=
  keepsScene_timeline session (session.timeline.modifyClip_settings id change)

theorem keepsScene_beginRename
    (session : Session)
    (id : String) :
    KeepsScene session (session.beginRename id).session := by
  unfold beginRename
  split
  · exact KeepsScene.refl session
  · exact keepsScene_modifyClip session id _

theorem keepsScene_commitRename
    (session : Session)
    (id : String) :
    KeepsScene session (session.commitRename id).session := by
  unfold commitRename
  split
  · exact KeepsScene.refl session
  · exact keepsScene_modifyClip session id _

theorem keepsScene_deleteClip
    (session : Session)
    (id : String)
    (given? : Option Bool) :
    KeepsScene session (session.deleteClip id given?).session := by
  unfold deleteClip
  split <;> exact KeepsScene.refl session

/-- Renaming, dragging and deleting a clip change its editor at most. -/
theorem keepsScene_performOnClip
    (session : Session)
    (id : String)
    (action : ClipAction) :
    KeepsScene session (session.performOnClip id action).session := by
  cases action with
  | beginRename =>
      exact keepsScene_beginRename session id
  | typeName name =>
      exact keepsScene_modifyClip session id _
  | commitRename =>
      exact keepsScene_commitRename session id
  | cancelRename =>
      exact keepsScene_modifyClip session id _
  | hover hovered =>
      exact keepsScene_modifyClip session id _
  | beginDrag grip x area =>
      exact keepsScene_timeline session (session.timeline.beginDrag_settings id grip x area)
  | delete given? =>
      exact keepsScene_deleteClip session id given?

/-- The actions that can change the world or the catalog. -/
def Action.touchesScene : Action → Bool
  | .receive _ | .seek _ | .addMaterial | .updateMaterial .. => true
  | _ => false

/-- The actions that can change the timeline. -/
def Action.touchesTimeline : Action → Bool
  | .refresh | .onClip .. | .pointerMove _ | .pointerUp => true
  | _ => false

/-- The actions that can change what is built with. -/
def Action.touchesBuild : Action → Bool
  | .toggleBuild _ | .selectBuild _ | .disarm | .click _ | .press .. => true
  | _ => false

/-- An action that touches none of these keeps the tools. -/
theorem keepsTools_after
    (session : Session)
    {action : Action}
    (quiet : action.touchesScene = false)
    (still : action.touchesTimeline = false)
    (idle : action.touchesBuild = false) :
    KeepsTools session (session.after action) := by
  cases action with
  | receive | seek | addMaterial | updateMaterial =>
      exact absurd quiet (by simp [Action.touchesScene])
  | refresh | onClip | pointerMove | pointerUp =>
      exact absurd still (by simp [Action.touchesTimeline])
  | toggleBuild | selectBuild | disarm | click | press =>
      exact absurd idle (by simp [Action.touchesBuild])
  | answerWith | type | browseUp | browseDown | accept =>
      exact ⟨⟨rfl, rfl, rfl⟩, rfl⟩
  | deletePoint | togglePlay | stop =>
      exact ⟨⟨rfl, rfl, rfl⟩, rfl⟩
  | dispatch line =>
      exact keepsTools_dispatch session line
  | submit =>
      exact keepsTools_submit session
  | editPoint id x y z =>
      exact keepsTools_editPoint session id x y z
  | editColor id color =>
      exact keepsTools_editColor session id color
  | addToCollection name range =>
      exact keepsTools_addToCollection session name range
  | removeFromCollection name id =>
      exact keepsTools_removeFromCollection session name id
  | createCollection name =>
      exact keepsTools_createCollection session name
  | renameCollection oldName newName =>
      exact keepsTools_renameCollection session oldName newName
  | newProject given? =>
      exact keepsTools_newProject session given?
  | save =>
      exact keepsTools_save session
  | saveAs name adopt =>
      exact keepsTools_saveAs session name adopt
  | loadProject id name? =>
      exact keepsTools_loadProject session id name?

/-- An action that touches neither scene nor timeline keeps the stage, also one that builds. -/
theorem keepsStage_after
    (session : Session)
    {action : Action}
    (quiet : action.touchesScene = false)
    (still : action.touchesTimeline = false) :
    KeepsStage session (session.after action) := by
  cases action with
  | disarm | click =>
      exact ⟨rfl, rfl, rfl⟩
  | toggleBuild material =>
      exact keepsStage_toggleBuild session material
  | selectBuild id =>
      exact keepsStage_selectBuild session id
  | press key control focused =>
      exact keepsStage_press session key control focused
  | _ =>
      exact (keepsTools_after session quiet still rfl).toKeepsStage

/-- Every action that does not touch the scene keeps it, also one that touches the timeline. -/
theorem keepsScene_after
    (session : Session)
    {action : Action}
    (quiet : action.touchesScene = false) :
    KeepsScene session (session.after action) := by
  cases action with
  | refresh =>
      exact keepsScene_refresh session
  | onClip id action =>
      exact (keepsScene_refresh session).trans
        (keepsScene_performOnClip session.refresh id action)
  | pointerMove | pointerUp =>
      exact ⟨rfl, rfl, rfl⟩
  | _ =>
      exact (keepsStage_after session quiet rfl).scene

/-!
## Messages
-/

/-- The session after a snapshot; the catalog hears of the connections if they changed. -/
def merged (session : Session) (snapshot : Snapshot) : Session :=
  let world := session.world.update snapshot
  {
    session with
    replica := { session.replica with world }
    catalog :=
      if connectionsAgree world.connections session.world.connections then session.catalog
      else session.catalog.noteConnections world.connections
  }

/-- Count one more refused message. -/
def drop (session : Session) : Session :=
  { session with replica := { session.replica with dropped := session.replica.dropped + 1 } }

/-- A snapshot with the same connections leaves the catalog as it is. -/
theorem merged_catalog_of_unchanged
    {session : Session}
    {snapshot : Snapshot}
    (unchanged :
      connectionsAgree (session.merged snapshot).world.connections session.world.connections =
        true) :
    (session.merged snapshot).catalog = session.catalog :=
  if_pos unchanged

/-- A snapshot with other connections is noted in the catalog. -/
theorem merged_catalog_of_changed
    {session : Session}
    {snapshot : Snapshot}
    (changed :
      connectionsAgree (session.merged snapshot).world.connections session.world.connections =
        false) :
    (session.merged snapshot).catalog =
      session.catalog.noteConnections (session.merged snapshot).world.connections :=
  if_neg (Bool.eq_false_iff.mp changed)

/-- A message that holds a snapshot is merged. -/
theorem receive_accepted
    (session : Session)
    {message : Message}
    {snapshot : Snapshot}
    (accepted : message.snapshot? = some snapshot) :
    session.receive message = { result := true, session := session.merged snapshot } := by
  rw [receive, session.replica.receive_accepted accepted]
  by_cases unchanged :
      connectionsAgree (session.replica.world.update snapshot).connections
        session.replica.world.connections = true
  · simp [merged, world, unchanged]
  · simp [merged, world, unchanged]

/-- A message that holds no snapshot is counted and noted, and changes nothing else. -/
theorem receive_dropped
    (session : Session)
    {message : Message}
    (refused : message.snapshot? = none) :
    ∃ note,
      session.receive message =
        { result := false, session := session.drop, effects := [.noted note] } := by
  obtain ⟨reason, received⟩ := session.replica.receive_dropped refused
  refine ⟨{ level := .warning, message := reason.message }, ?_⟩
  rw [receive, received]
  rfl

/-- A snapshot that is accepted is merged. -/
theorem after_receive_accepted
    (session : Session)
    {message : Message}
    {snapshot : Snapshot}
    (accepted : message.snapshot? = some snapshot) :
    session.after (.receive message) = session.merged snapshot :=
  congrArg Outcome.session (session.receive_accepted accepted)

/-- A message that is refused is counted. -/
theorem after_receive_dropped
    (session : Session)
    {message : Message}
    (refused : message.snapshot? = none) :
    session.after (.receive message) = session.drop := by
  obtain ⟨note, received⟩ := session.receive_dropped refused
  exact congrArg Outcome.session received

/-!
## Seeks and edits
-/

/-- The time that a seek goes to, if it is completed. -/
def seekTarget? (settings : TimelineSettings) (time : Json) : Option Binary64 := do
  let wanted ← time.toReal.toOption
  (({ settings } : Timeline).clampTime wanted).toReal.toOption

/-- A seek that is completed shows a time, and any other one changes nothing. -/
theorem after_seek
    (session : Session)
    (time : Json) :
    session.after (.seek time) =
      ((seekTarget? session.timeline.settings time).map session.showTime).getD session := by
  have sameTarget (wanted : Binary64) :
      ({ settings := session.timeline.settings } : Timeline).clampTime wanted =
        session.timeline.clampTime wanted :=
    rfl
  simp only [after, perform, seekTarget?]
  cases time.toReal with
  | error error =>
      rfl
  | ok wanted =>
      simp only [seek, sameTarget]
      cases shown : (session.timeline.clampTime wanted).toReal with
      | error error =>
          simp [shown, Except.toOption, only]
      | ok target =>
          simp [shown, Except.toOption]

/-- An edit gives the session another catalog at most. -/
theorem after_updateMaterial
    (session : Session)
    (id field : String)
    (value : Json) :
    session.after (.updateMaterial id field value) = session ∨
      ∃ catalog changed,
        session.catalog.update id field value = .ok (catalog, changed) ∧
          session.after (.updateMaterial id field value) = { session with catalog } := by
  simp only [after, perform, updateMaterial]
  split
  · exact Or.inl rfl
  · next catalog changed edited =>
      exact Or.inr ⟨catalog, changed, edited, rfl⟩

/-!
## Steps
-/

/-- The actions that move the world, unless they are messages that hold no snapshot. -/
def Action.movesWorld (settings : TimelineSettings) : Action → Bool
  | .receive _ => true
  | .seek time => (seekTarget? settings time).isSome
  | _ => false

/-- How a session passes into the next one by an action. -/
inductive Step (session : Session) : Action → Session → Prop where
  | quiet {action : Action} {later : Session}
      (still : action.movesWorld session.timeline.settings = false)
      (kept : KeepsScene session later) :
      Step session action later
  | merged {message : Message} {snapshot : Snapshot}
      (held : message.snapshot? = some snapshot) :
      Step session (.receive message) (session.merged snapshot)
  | dropped {message : Message}
      (refused : message.snapshot? = none) :
      Step session (.receive message) session.drop
  | sought {time : Json} {shown : Binary64}
      (target : seekTarget? session.timeline.settings time = some shown) :
      Step session (.seek time) (session.showTime shown)
  | added :
      Step session .addMaterial { session with catalog := session.catalog.addMaterial.1 }
  | edited {id field : String} {value : Json} {catalog : Catalog} {changed : Bool}
      (edit : session.catalog.update id field value = .ok (catalog, changed)) :
      Step session (.updateMaterial id field value) { session with catalog }

/-- Every action is a step, so what all steps preserve is preserved by every run. -/
theorem step_after
    (session : Session)
    (action : Action) :
    Step session action (session.after action) := by
  cases action with
  | receive message =>
      cases held : message.snapshot? with
      | none =>
          rw [session.after_receive_dropped held]
          exact .dropped held
      | some snapshot =>
          rw [session.after_receive_accepted held]
          exact .merged held
  | seek time =>
      rw [session.after_seek]
      cases target : seekTarget? session.timeline.settings time with
      | none =>
          have still : (Action.seek time).movesWorld session.timeline.settings = false := by
            rw [Action.movesWorld, target]
            rfl
          exact .quiet still (KeepsScene.refl session)
      | some shown =>
          exact .sought target
  | addMaterial =>
      exact .added
  | updateMaterial id field value =>
      rcases session.after_updateMaterial id field value with
        same | ⟨catalog, changed, edit, edited⟩
      · rw [same]
        exact .quiet rfl (KeepsScene.refl session)
      · rw [edited]
        exact .edited edit
  | _ =>
      exact .quiet rfl (keepsScene_after session rfl)

/-- No step changes the settings of the timeline. -/
theorem Step.settings
    {session later : Session}
    {action : Action}
    (step : Step session action later) :
    later.timeline.settings = session.timeline.settings := by
  cases step with
  | quiet still kept =>
      exact kept.settings
  | _ =>
      rfl

/-- No action changes the settings of the timeline. -/
theorem settings_run
    (session : Session)
    (actions : List Action) :
    (session.run actions).timeline.settings = session.timeline.settings := by
  have kept
      (later : Session)
      (action : Action)
      (_ : action ∈ actions)
      (same : later.timeline.settings = session.timeline.settings) :
      (later.after action).timeline.settings = session.timeline.settings :=
    (later.step_after action).settings.trans same
  exact run_induction kept rfl

end Session

end SceneEditor
