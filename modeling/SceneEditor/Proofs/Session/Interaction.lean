import SceneEditor.Proofs.Session.Run
import SceneEditor.Proofs.Timeline.Updates

namespace SceneEditor

/-!
# One interaction per clip

In any run of a session a clip is renamed or dragged by at most one drag, and gets at most one
update by a move of the pointer, as long as no clip is lost while it is dragged.  A clip is lost when
the editors are brought in line with clips among which it is missing.  Its drag goes on until the
pointer is released, and until then the count of lost drags is the most by which the rule can be
broken.
-/

namespace ClipEditor

/-- The record of the clip, and the times that are shown in the place of its own. -/
def shown (editor : ClipEditor) : Clip × Option Track.Span :=
  (editor.clip, editor.preview?)

theorem shown_beginRename (editor : ClipEditor) :
    editor.beginRename.1.shown = editor.shown := by
  unfold beginRename
  split <;> rfl

theorem shown_typeName
    (editor : ClipEditor)
    (name : String) :
    (editor.typeName name).shown = editor.shown := by
  unfold typeName
  split <;> rfl

theorem shown_commitRename (editor : ClipEditor) :
    editor.commitRename.1.shown = editor.shown := by
  unfold commitRename
  split <;> rfl

theorem shown_cancelRename (editor : ClipEditor) :
    editor.cancelRename.shown = editor.shown := by
  unfold cancelRename
  split <;> rfl

end ClipEditor

namespace Timeline

/-- A clip is dragged once or renamed, and not both, and is updated by its drag alone. -/
structure InteractsOnce (timeline : Timeline) (id : String) : Prop where
  once : timeline.interactions id ≤ 1
  updatedOnce : ∀ x, timeline.updatesAt x id ≤ 1
  namedAlone : timeline.isNaming id = true → ∀ x, timeline.updatesAt x id = 0

/-- Updates of a clip come from its drags, and no more than one of these is not stray. -/
theorem IsExclusive.updatesAt_le
    {timeline : Timeline}
    (exclusive : timeline.IsExclusive)
    (x : Num)
    (id : String) :
    timeline.updatesAt x id + (timeline.isNaming id).toNat ≤
      1 + timeline.strays.countP (timeline.dragsClip id) := by
  have updates := (timeline.moved_keeps x id).2
  have interactions := exclusive.interactions_le id
  rw [Timeline.interactions] at interactions
  omega

/-- An exclusive timeline without strays interacts once with each clip. -/
theorem IsExclusive.interactsOnce
    {timeline : Timeline}
    (exclusive : timeline.IsExclusive)
    (noStray : timeline.strays = [])
    (id : String) :
    timeline.InteractsOnce id := by
  have interactions := exclusive.interactions_le id
  have updates (x : Num) := exclusive.updatesAt_le x id
  simp only [noStray, List.countP_nil, Nat.add_zero] at interactions updates
  constructor
  · exact interactions
  · intro x
    exact Nat.le_trans (Nat.le_add_right _ _) (updates x)
  · intro naming x
    have alone := updates x
    rw [naming] at alone
    exact Nat.le_zero.mp (Nat.le_of_add_le_add_right alone)

/-- The strays depend on the hub and on the live clips only. -/
theorem strays_of_same
    {before after : Timeline}
    (hub : after.hub = before.hub)
    (live : after.live = before.live) :
    after.strays = before.strays := by
  simp only [strays, drags, isLive, hub, live]

theorem modifyClip_live
    (timeline : Timeline)
    (id : String)
    (change : ClipEditor → ClipEditor) :
    (timeline.modifyClip id change).live = timeline.live := by
  unfold modifyClip
  split <;> rfl

/-- Editors stay exclusive, and no drag becomes stray. -/
structure StaysSafe (before after : Timeline) : Prop where
  exclusive : before.IsExclusive → after.IsExclusive
  strays : before.IsExclusive → before.strays = [] → after.strays = []

theorem StaysSafe.refl (timeline : Timeline) :
    StaysSafe timeline timeline :=
  ⟨fun exclusive => exclusive, fun _ noStray => noStray⟩

/-- What keeps the grips and the live clips stays safe. -/
theorem KeepsGrips.staysSafe
    {before after : Timeline}
    (kept : KeepsGrips before after)
    (live : after.live = before.live) :
    StaysSafe before after where
  exclusive := kept.isExclusive
  strays := fun _ noStray => (strays_of_same kept.hub live).trans noStray

theorem staysSafe_modifyClip
    (timeline : Timeline)
    (id : String)
    {change : ClipEditor → ClipEditor}
    (keeps : ∀ editor : ClipEditor, editor.KeepsGrip (change editor)) :
    StaysSafe timeline (timeline.modifyClip id change) :=
  (timeline.keepsGrips_modifyClip id keeps).staysSafe (timeline.modifyClip_live id change)

theorem staysSafe_beginDrag
    (timeline : Timeline)
    (id : String)
    (grip : Grip)
    (x area : Num) :
    StaysSafe timeline (timeline.beginDrag id grip x area).1 :=
  have begins := timeline.begins_beginDrag id grip x area
  ⟨begins.isExclusive, begins.strays⟩

theorem staysSafe_pointerMove
    (timeline : Timeline)
    (x : Num) :
    StaysSafe timeline (timeline.pointerMove x).1 :=
  (timeline.keepsGrips_pointerMove x).staysSafe rfl

theorem staysSafe_pointerUp (timeline : Timeline) :
    StaysSafe timeline timeline.pointerUp where
  exclusive := fun exclusive => exclusive.pointerUp
  strays := by
    intro exclusive _
    rw [strays, drags_pointerUp exclusive.paired]
    rfl

end Timeline

namespace Session

/-- The action brings the editors in line with the clips. -/
def Action.refreshes : Action → Bool
  | .refresh | .onClip .. => true
  | _ => false

/-- The action brings the editors in line with clips among which a dragged one is missing. -/
def losesDrag (session : Session) (action : Action) : Bool :=
  action.refreshes && session.timeline.losesDrag session.world.clips

/-- No clip is lost during the actions while it is dragged. -/
def keepsDrags (session : Session) : List Action → Bool
  | [] => true
  | action :: rest => !session.losesDrag action && (session.after action).keepsDrags rest

/-!
## Actions
-/

/-- What is done with the editor of a clip: nothing, a change that shows nothing else, or a drag. -/
inductive ClipStep (timeline : Timeline) (id : String) : ClipAction → Timeline → Prop where
  | same {action : ClipAction} :
      ClipStep timeline id action timeline
  | changed {action : ClipAction} {change : ClipEditor → ClipEditor}
      (keeps : ∀ editor : ClipEditor, editor.KeepsGrip (change editor))
      (shown : ∀ editor : ClipEditor, (change editor).shown = editor.shown) :
      ClipStep timeline id action (timeline.modifyClip id change)
  | dragged {grip : Grip} {x area : Num} :
      ClipStep timeline id (.beginDrag grip x area) (timeline.beginDrag id grip x area).1

/-- What a session does to a clip is a step of its timeline. -/
theorem clipStep_performOnClip
    (session : Session)
    (id : String)
    (action : ClipAction) :
    ClipStep session.timeline id action (session.performOnClip id action).session.timeline := by
  cases action with
  | beginRename =>
      change ClipStep _ id _ (session.beginRename id).session.timeline
      unfold Session.beginRename
      split
      · exact .same
      · exact .changed ClipEditor.keepsGrip_beginRename ClipEditor.shown_beginRename
  | typeName name =>
      exact .changed (fun editor => editor.keepsGrip_typeName name)
        fun editor => editor.shown_typeName name
  | commitRename =>
      change ClipStep _ id _ (session.commitRename id).session.timeline
      unfold Session.commitRename
      split
      · exact .same
      · exact .changed ClipEditor.keepsGrip_commitRename ClipEditor.shown_commitRename
  | cancelRename =>
      exact .changed ClipEditor.keepsGrip_cancelRename ClipEditor.shown_cancelRename
  | hover hovered =>
      exact .changed (fun _ => ⟨rfl, fun _ held => held⟩) fun _ => rfl
  | beginDrag grip x area =>
      exact .dragged
  | delete given? =>
      change ClipStep _ id _ (session.deleteClip id given?).session.timeline
      unfold Session.deleteClip
      split <;> exact .same

/-- What is done to one clip stays safe. -/
theorem ClipStep.staysSafe
    {timeline later : Timeline}
    {id : String}
    {action : ClipAction}
    (step : ClipStep timeline id action later) :
    Timeline.StaysSafe timeline later := by
  cases step with
  | same =>
      exact Timeline.StaysSafe.refl timeline
  | changed keeps _ =>
      exact timeline.staysSafe_modifyClip id keeps
  | dragged =>
      exact timeline.staysSafe_beginDrag id _ _ _

theorem staysSafe_performOnClip
    (session : Session)
    (id : String)
    (action : ClipAction) :
    Timeline.StaysSafe session.timeline (session.performOnClip id action).session.timeline :=
  (session.clipStep_performOnClip id action).staysSafe

/-- The timeline after an action that does not touch it. -/
theorem timeline_after
    (session : Session)
    {action : Action}
    (still : action.touchesTimeline = false) :
    (session.after action).timeline = session.timeline := by
  cases action with
  | receive message =>
      cases held : message.snapshot? with
      | none =>
          rw [session.after_receive_dropped held]
          rfl
      | some snapshot =>
          rw [session.after_receive_accepted held]
          rfl
  | seek time =>
      rw [session.after_seek]
      cases seekTarget? session.timeline.settings time with
      | none =>
          rfl
      | some shown =>
          rfl
  | addMaterial =>
      rfl
  | updateMaterial id field value =>
      rcases session.after_updateMaterial id field value with same | ⟨catalog, changed, -, edited⟩
      · rw [same]
      · rw [edited]
  | _ =>
      exact (session.keepsStage_after rfl still).timeline

/-- Each action keeps the timeline exclusive. -/
theorem isExclusive_after
    {session : Session}
    (exclusive : session.timeline.IsExclusive)
    (action : Action) :
    (session.after action).timeline.IsExclusive := by
  cases touches : action.touchesTimeline with
  | false =>
      rw [session.timeline_after touches]
      exact exclusive
  | true =>
      cases action with
      | refresh =>
          exact exclusive.refresh session.world.clips
      | onClip id action =>
          exact (session.refresh.staysSafe_performOnClip id action).exclusive
            (exclusive.refresh session.world.clips)
      | pointerMove x =>
          exact (session.timeline.staysSafe_pointerMove x).exclusive exclusive
      | pointerUp =>
          exact exclusive.pointerUp
      | _ =>
          exact absurd touches (by simp [Action.touchesTimeline])

/-- Drags become stray only by actions that lose them. -/
theorem strays_after
    {session : Session}
    (exclusive : session.timeline.IsExclusive)
    (noStray : session.timeline.strays = [])
    {action : Action}
    (keeps : session.losesDrag action = false) :
    (session.after action).timeline.strays = [] := by
  cases touches : action.touchesTimeline with
  | false =>
      rw [session.timeline_after touches]
      exact noStray
  | true =>
      cases action with
      | refresh =>
          exact exclusive.strays_refresh noStray keeps
      | onClip id action =>
          exact (session.refresh.staysSafe_performOnClip id action).strays
            (exclusive.refresh session.world.clips) (exclusive.strays_refresh noStray keeps)
      | pointerMove x =>
          exact (session.timeline.staysSafe_pointerMove x).strays exclusive noStray
      | pointerUp =>
          exact (session.timeline.staysSafe_pointerUp).strays exclusive noStray
      | _ =>
          exact absurd touches (by simp [Action.touchesTimeline])

/-!
## Runs
-/

/-- Any actions keep the timeline exclusive. -/
theorem isExclusive_run
    {session : Session}
    (exclusive : session.timeline.IsExclusive)
    (actions : List Action) :
    (session.run actions).timeline.IsExclusive := by
  apply @run_induction (fun later => later.timeline.IsExclusive) actions _ session exclusive
  intro later action _ holds
  exact isExclusive_after holds action

/-- No drag strays as long as each refresh keeps the clips that are dragged. -/
theorem strays_run
    {session : Session}
    (exclusive : session.timeline.IsExclusive)
    (noStray : session.timeline.strays = [])
    {actions : List Action}
    (keeps : session.keepsDrags actions = true) :
    (session.run actions).timeline.strays = [] := by
  induction actions generalizing session with
  | nil =>
      exact noStray
  | cons action rest inductionHypothesis =>
      obtain ⟨keepsFirst, keepsRest⟩ := (Bool.and_eq_true _ _).mp keeps
      rw [Bool.not_eq_true'] at keepsFirst
      exact inductionHypothesis (isExclusive_after exclusive action)
        (strays_after exclusive noStray keepsFirst) keepsRest

/--
In every reachable session the drags and renamings of a clip, and the updates that it gets by a
move, are no more than one and one for each of its lost drags.  Nothing is dragged after the pointer
was released.  From a session in which nothing is dragged, as long as no dragged clip is lost, a clip
is dragged once or renamed, and not both, and is updated once by a move, and never while it is
renamed.
-/
theorem run_interactsOnce
    (answer? : Option Bool)
    (settings : TimelineSettings)
    (before since : List Action) :
    let start := (fresh answer? settings).run before
    let later := start.run since
    (∀ id x,
      later.timeline.interactions id ≤
          1 + later.timeline.strays.countP (later.timeline.dragsClip id) ∧
        later.timeline.updatesAt x id + (later.timeline.isNaming id).toNat ≤
          1 + later.timeline.strays.countP (later.timeline.dragsClip id)) ∧
      (later.after .pointerUp).timeline.drags = [] ∧
      (start.timeline.drags = [] →
        start.keepsDrags since = true →
          ∀ id, later.timeline.InteractsOnce id) := by
  intro start later
  have startExclusive : start.timeline.IsExclusive :=
    isExclusive_run (Timeline.isExclusive_new settings) before
  have exclusive : later.timeline.IsExclusive := isExclusive_run startExclusive since
  refine ⟨?_, Timeline.drags_pointerUp exclusive.paired, ?_⟩
  · intro id x
    exact ⟨exclusive.interactions_le id, exclusive.updatesAt_le x id⟩
  · intro noDrag keeps id
    have startSafe : start.timeline.strays = [] := by
      rw [Timeline.strays, noDrag]
      rfl
    exact exclusive.interactsOnce (strays_run startExclusive startSafe keeps) id

/-- A drag is lost and released; then one clip is dragged while another is being renamed. -/
theorem run_interactsOnce_released :
    let clips : Message :=
      .text ("\x7b\"clips\": ["
        ++ "\x7b\"id\": \"c1\", \"targetId\": 0, \"startTime\": 2, \"endTime\": 4\x7d, "
        ++ "\x7b\"id\": \"c2\", \"targetId\": 1, \"startTime\": 1, \"endTime\": 3\x7d]\x7d")
    let drag (id : String) : Action := .onClip id (.beginDrag .body (.int 0) (.int 665))
    let before : List Action :=
      [.receive clips, drag "c1", .receive (.text "\x7b\x7d"), .refresh, .pointerUp]
    let since : List Action :=
      [.receive clips, drag "c1", .onClip "c2" .beginRename, drag "c2", .receive clips, .refresh]
    let start := (fresh none {}).run before
    let later := start.run since
    start.timeline.drags = [] ∧
      start.keepsDrags since = true ∧
      later.timeline.InteractsOnce "c1" ∧
      later.timeline.InteractsOnce "c2" ∧
      later.timeline.updatesAt (.int 10) "c1" = 1 ∧
      later.timeline.isNaming "c2" = true := by
  intro clips drag before since start later
  have noDrag : start.timeline.drags = [] := by
    decide +kernel
  have keeps : start.keepsDrags since = true := by
    decide +kernel
  have once := (run_interactsOnce none {} before since).2.2 noDrag keeps
  refine ⟨noDrag, keeps, once "c1", once "c2", ?_, ?_⟩
  · decide +kernel
  · decide +kernel

/--
A clip that is dragged is missing from one snapshot and back in the next.  It can be dragged a
second time, and then one move updates it twice, or be renamed, and is updated all the same.
-/
theorem run_interactsTwice :
    let clip : Message :=
      .text ("\x7b\"clips\": ["
        ++ "\x7b\"id\": \"c1\", \"targetId\": 0, \"startTime\": 2, \"endTime\": 4\x7d]\x7d")
    let drag : Action := .onClip "c1" (.beginDrag .body (.int 0) (.int 665))
    let session := (fresh none {}).run
      [.receive clip, drag, .receive (.text "\x7b\x7d"), .refresh, .receive clip]
    let dragged := (session.after drag).timeline
    let named := (session.after (.onClip "c1" .beginRename)).timeline
    dragged.interactions "c1" = 2 ∧
      dragged.updatesAt (.int 10) "c1" = 2 ∧
      named.isNaming "c1" = true ∧
      named.updatesAt (.int 10) "c1" = 1 := by
  decide +kernel

end Session

end SceneEditor
