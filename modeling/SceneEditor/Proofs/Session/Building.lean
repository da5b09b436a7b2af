import SceneEditor.Proofs.Material.BuildMode
import SceneEditor.Proofs.Session.LineLog
import SceneEditor.Proofs.Session.Run

namespace SceneEditor.Session

/-!
# Building in a session

The build mode of a session is what its toggles, its clicks and its escapes make of it, and nothing
else touches it.  A click sends the connection that it makes, and touches nothing else.
-/

/-- What an action does in build mode, if anything. -/
def Action.building? (session : Session) : Action → Option BuildMode.Action
  | .toggleBuild material => some (.toggle session.catalog material)
  | .selectBuild id => (session.catalog.get? id).map (.toggle session.catalog)
  | .disarm => some .disarm
  | .click id => some (.click id)
  | .press key _ _ => if lowered key = "escape" then some .cancel else none
  | _ => none

/-- What a run does in build mode, each action with the catalog as it is then. -/
def buildings (session : Session) : List Action → List BuildMode.Action
  | [] => []
  | action :: rest =>
      (action.building? session).toList ++ (session.after action).buildings rest

/-- The texts that an action publishes if it is a click. -/
def Action.clickTexts (session : Session) : Action → List String
  | .click id => (session.click id).effects.filterMap Effect.published?
  | _ => []

/-- The texts that the clicks of a run publish. -/
def clickTexts (session : Session) : List Action → List String
  | [] => []
  | action :: rest =>
      action.clickTexts session ++ (session.after action).clickTexts rest

/-!
## What does not build
-/

theorem receive_build
    (session : Session)
    (message : Message) :
    (session.receive message).session.build = session.build := by
  unfold receive
  split <;> rfl

theorem updateMaterial_build
    (session : Session)
    (id field : String)
    (value : Json) :
    (session.updateMaterial id field value).session.build = session.build := by
  unfold updateMaterial
  split <;> rfl

theorem seek_build
    (session : Session)
    (time : Json) :
    (session.after (.seek time)).build = session.build := by
  rw [after_seek]
  cases seekTarget? session.timeline.settings time <;> rfl

theorem performOnClip_build
    (session : Session)
    (id : String)
    (action : ClipAction) :
    (session.performOnClip id action).session.build = session.build := by
  cases action with
  | beginRename =>
      simp only [performOnClip, Outcome.done_session, beginRename]
      split <;> rfl
  | commitRename =>
      simp only [performOnClip, Outcome.done_session, commitRename]
      split <;> rfl
  | delete given? =>
      simp only [performOnClip, Outcome.done_session, deleteClip]
      split <;> rfl
  | _ =>
      rfl

/-- An action that does not build keeps the build mode. -/
theorem after_build_of_idle
    (session : Session)
    {action : Action}
    (idle : action.touchesBuild = false) :
    (session.after action).build = session.build := by
  cases action with
  | receive message =>
      exact session.receive_build message
  | updateMaterial id field value =>
      exact session.updateMaterial_build id field value
  | seek time =>
      exact session.seek_build time
  | onClip id action =>
      exact session.refresh.performOnClip_build id action
  | addMaterial | refresh | pointerMove | pointerUp =>
      rfl
  | _ =>
      exact (session.keepsTools_after rfl rfl idle).build

/-!
## What builds
-/

/-- The build mode after something was done in it, if anything was. -/
def builtBy (session : Session) (building? : Option BuildMode.Action) : BuildMode :=
  (building?.map fun building => (session.build.act building).1).getD session.build

/-- Toggling in a session is toggling the mode. -/
theorem toggleBuild_build
    (session : Session)
    (material : Material) :
    (session.toggleBuild material).session.build =
      (session.build.act (.toggle session.catalog material)).1 := by
  rw [toggleBuild, BuildMode.act]
  cases session.build.toggle session.catalog material <;> rfl

/-- Selecting a material toggles it, if it exists. -/
theorem selectBuild_build
    (session : Session)
    (id : String) :
    (session.selectBuild id).session.build =
      session.builtBy ((session.catalog.get? id).map (.toggle session.catalog)) := by
  unfold selectBuild builtBy
  cases session.catalog.get? id with
  | none =>
      rfl
  | some material =>
      dsimp only [Option.map_some, Option.getD_some, BuildMode.act]
      cases session.build.toggle session.catalog material <;> rfl

/-- Only the escape key touches the build mode. -/
theorem press_build
    (session : Session)
    (key : String)
    (control focused : Bool) :
    (session.press key control focused).session.build =
      session.builtBy (if lowered key = "escape" then some .cancel else none) := by
  by_cases escape : lowered key = "escape"
  · cases control <;> simp [press, escape, builtBy, BuildMode.act]
  · have saved : session.save.session.build = session.build := (keepsTools_save session).build
    rw [if_neg escape]
    simp only [press, if_neg escape]
    split
    · rfl
    split
    · rfl
    split
    · exact saved
    split <;> rfl

/-- What an action does to the build mode. -/
theorem after_build
    (session : Session)
    (action : Action) :
    (session.after action).build = session.builtBy (action.building? session) := by
  cases action with
  | toggleBuild material =>
      exact session.toggleBuild_build material
  | selectBuild id =>
      exact session.selectBuild_build id
  | press key control focused =>
      exact session.press_build key control focused
  | disarm =>
      rfl
  | click id =>
      rw [Action.building?, builtBy, Option.map_some, Option.getD_some, BuildMode.act]
      rcases clicked : session.build.click id with ⟨later, command?⟩
      cases command? <;> exact congrArg Prod.fst clicked
  | _ =>
      exact session.after_build_of_idle rfl

/-!
## Clicks
-/

/-- A click sends what the build mode makes of it. -/
theorem effects_click
    (session : Session)
    (id : Int) :
    (session.click id).effects = sent (session.build.click id).2.toList :=
  rfl

/-- A click touches nothing but the build mode. -/
theorem after_click
    (session : Session)
    (id : Int) :
    session.after (.click id) = { session with build := (session.build.click id).1 } :=
  rfl

/-- What is sent is published as written commands. -/
theorem published_sent (commands : List Command) :
    (sent commands).filterMap Effect.published? = commands.map Command.wire := by
  rw [sent, List.filterMap_map]
  exact congrFun List.filterMap_eq_map commands

/-- A click publishes the connection that it makes, if it makes one. -/
theorem clickTexts_click
    (session : Session)
    (id : Int) :
    (Action.click id).clickTexts session =
      (session.build.act (.click id)).2.command?.toList.map Command.wire := by
  rw [Action.clickTexts, effects_click, published_sent, BuildMode.act]
  rcases session.build.click id with ⟨later, _ | command⟩ <;> rfl

/-- A toggle sends no command. -/
theorem command?_toggle
    (mode : BuildMode)
    (catalog : Catalog)
    (material : Material) :
    (mode.act (.toggle catalog material)).2.command? = none := by
  rw [BuildMode.act]
  cases mode.toggle catalog material <;> rfl

/-- What is published by a click is what came of it in build mode, and nothing else comes with one. -/
theorem clickTexts_action
    (session : Session)
    (action : Action) :
    action.clickTexts session =
      ((action.building? session).bind fun building =>
        (session.build.act building).2.command?).toList.map Command.wire := by
  cases action with
  | click id =>
      exact session.clickTexts_click id
  | toggleBuild material =>
      rw [Action.building?, Option.bind_some, command?_toggle]
      rfl
  | selectBuild id =>
      rw [Action.building?]
      cases session.catalog.get? id with
      | none =>
          rfl
      | some material =>
          rw [Option.map_some, Option.bind_some, command?_toggle]
          rfl
  | press key control focused =>
      rw [Action.building?]
      split <;> rfl
  | _ =>
      rfl

/-!
## Runs
-/

/-- A run makes of the build mode what its actions do in it, and its clicks publish what came of them. -/
theorem run_builds
    (session : Session)
    (actions : List Action) :
    (session.run actions).build = (session.build.play (session.buildings actions)).1 ∧
      session.clickTexts actions =
        ((session.build.play (session.buildings actions)).2.filterMap
          BuildMode.Event.command?).map Command.wire := by
  induction actions generalizing session with
  | nil =>
      exact ⟨rfl, rfl⟩
  | cons action rest inductionHypothesis =>
      obtain ⟨build, texts⟩ := inductionHypothesis (session.after action)
      rw [after_build] at build texts
      rw [clickTexts, clickTexts_action, buildings]
      cases done : action.building? session with
      | none =>
          rw [done] at build texts
          exact ⟨build, texts⟩
      | some building =>
          rw [done] at build texts
          refine ⟨build, ?_⟩
          have joined :=
            filterMap_cons_append BuildMode.Event.command? (session.build.act building).2
              ((session.build.act building).1.play ((session.after action).buildings rest)).2
          rw [texts, ← List.map_append]
          exact congrArg (List.map Command.wire) joined.symm

/--
Whatever is done in build mode, it follows the protocol.  The build mode of a session is what the
actions of its run make of it.  The clicks of the run publish exactly the connections that come of
these, in their order, and a click touches nothing but the build mode, in particular not the history.
-/
theorem run_followsProtocol
    (actions : List BuildMode.Action)
    (answer? : Option Bool)
    (settings : TimelineSettings)
    (performed : List Action) :
    let session := fresh answer? settings
    let (mode, events) := BuildMode.play {} (session.buildings performed)
    BuildMode.FollowsProtocol actions ∧
      (session.run performed).build = mode ∧
      session.clickTexts performed =
        (events.filterMap BuildMode.Event.command?).map Command.wire ∧
      ∀ id,
        let before := session.run performed
        before.after (.click id) = { before with build := (before.build.click id).1 } ∧
          (before.click id).effects = sent (before.build.click id).2.toList := by
  obtain ⟨build, texts⟩ := (fresh answer? settings).run_builds performed
  refine ⟨BuildMode.followsProtocol actions, build, texts, ?_⟩
  intro id before
  exact ⟨before.after_click id, before.effects_click id⟩

/-- A material is armed and then edited, and two clicks on different points connect them with what
was armed. -/
theorem run_followsProtocol_connects :
    let performed : List Action :=
      [
        .addMaterial, .selectBuild "00000001", .click 1,
        .updateMaterial "00000001" "color" (.string "red"), .click 1, .click 2
      ]
    let building := (fresh none {}).buildings performed
    BuildMode.FollowsProtocol building ∧
      ((fresh none {}).run performed).build =
        { armed? := some ("#ffffff", .int 2), pending? := none } ∧
      (fresh none {}).clickTexts performed = ["Connect(p1, p2, #ffffff, 2)"] := by
  intro performed building
  obtain ⟨protocol, build, texts, -⟩ := run_followsProtocol building none {} performed
  have played :
      BuildMode.play {} building =
        ({ armed? := some ("#ffffff", .int 2), pending? := none },
          (BuildMode.play {} building).2) ∧
      ((BuildMode.play {} building).2.filterMap BuildMode.Event.command?).map Command.wire =
        ["Connect(p1, p2, #ffffff, 2)"] := by
    decide +kernel
  exact ⟨protocol, build.trans (congrArg Prod.fst played.1), texts.trans played.2⟩

end SceneEditor.Session
