import SceneEditor.Proofs.Session.Interaction
import SceneEditor.Proofs.Timeline.Following
import SceneEditor.Proofs.Timeline.Refreshing

namespace SceneEditor

/-!
# Where drags come from

A drag that goes on after a run began in it, when the user pressed on a clip, unless it went on before
already.  It noted the times of the record that the clip had then.  Its editor stays with the clip,
whatever is received and shown in between.
-/

/-- The times of a clip. -/
def Clip.span (clip : Clip) : Track.Span where
  start := .real clip.startTime
  stop := .real clip.endTime

namespace Timeline

theorem modifyClip_hub
    (timeline : Timeline)
    (id : String)
    (change : ClipEditor → ClipEditor) :
    (timeline.modifyClip id change).hub = timeline.hub := by
  unfold modifyClip
  split <;> rfl

theorem modifyClip_shown
    {change : ClipEditor → ClipEditor}
    (same : ∀ editor : ClipEditor, (change editor).shown = editor.shown)
    (timeline : Timeline)
    (id : String) :
    (timeline.modifyClip id change).editors.map ClipEditor.shown =
      timeline.editors.map ClipEditor.shown := by
  unfold modifyClip
  split
  · exact map_modify_of_same same timeline.editors _
  · rfl

theorem Begins.live
    {timeline later : Timeline}
    {id : String}
    {grip : Grip}
    (begins : Begins timeline id grip later) :
    later.live = timeline.live := by
  cases begins <;> rfl

theorem Begins.shown
    {timeline later : Timeline}
    {id : String}
    {grip : Grip}
    (begins : Begins timeline id grip later) :
    later.editors.map ClipEditor.shown = timeline.editors.map ClipEditor.shown := by
  have same (editor : ClipEditor) : (editor.hold grip).shown = editor.shown := rfl
  cases begins with
  | refused =>
      rfl
  | unmeasured | begun =>
      exact map_modify_of_same same timeline.editors _

/-- No gesture listens once the pointer is let go. -/
theorem listening_pointerUp
    {timeline : Timeline}
    (paired : timeline.hub.IsPaired) :
    timeline.pointerUp.hub.listening = [] := by
  obtain ⟨released, silent⟩ := pointerUp_hub paired
  rw [PointerHub.listening, released.same.trans silent]
  rfl

/-- Whose clips the editors are of, in the order of their places. -/
def owners (timeline : Timeline) : List String :=
  timeline.editors.map fun editor => editor.clip.id

theorem owners_of_clips
    {before after : Timeline}
    (same : after.editors.map ClipEditor.clip = before.editors.map ClipEditor.clip) :
    after.owners = before.owners := by
  have ids := congrArg (List.map Clip.id) same
  rw [List.map_map, List.map_map] at ids
  exact ids

/-- An editor that is added comes behind those that are there. -/
theorem IsExclusive.owners_enlist
    {timeline : Timeline}
    (exclusive : timeline.IsExclusive)
    (clip : Clip) :
    timeline.owners <+: (timeline.enlist clip).owners := by
  unfold Timeline.enlist
  split
  · next place found =>
    obtain ⟨editor, isEditor, ofClip⟩ := exclusive.exists_editor (place?_eq_some found)
    have same : (timeline.modify place fun editor => editor.refresh clip).owners = timeline.owners := by
      apply List.ext_getElem?
      intro other
      by_cases isPlace : place = other
      · subst other
        simp [owners, modify, isEditor, ofClip, ClipEditor.refresh]
      · simp [owners, modify, isPlace]
    exact same ▸ List.prefix_refl _
  · rw [owners, owners, List.map_append]
    exact List.prefix_append _ _

/-- An editor stays with its clip when the editors are brought in line. -/
theorem IsExclusive.owners_refresh
    {timeline : Timeline}
    (exclusive : timeline.IsExclusive)
    (clips : List Clip) :
    timeline.owners <+: (timeline.refresh clips).owners := by
  rw [refresh_eq]
  have withoutGone := (timeline.keepsGrips_withoutGone clips).isExclusive exclusive
  have kept (later : Timeline) (clip : Clip)
      (holds : later.IsExclusive ∧ timeline.owners <+: later.owners) :
      (later.enlist clip).IsExclusive ∧ timeline.owners <+: (later.enlist clip).owners :=
    ⟨holds.1.enlist clip, holds.2.trans (holds.1.owners_enlist clip)⟩
  exact (@foldl_enlist_induction _ kept clips (timeline.withoutGone clips)
    ⟨withoutGone, List.prefix_refl _⟩).2

end Timeline

namespace Session

open Timeline

/-!
## What is done with the editor of a clip
-/

theorem ClipStep.live
    {timeline later : Timeline}
    {id : String}
    {action : ClipAction}
    (step : ClipStep timeline id action later) :
    later.live = timeline.live := by
  cases step with
  | same =>
      rfl
  | changed =>
      exact timeline.modifyClip_live id _
  | dragged =>
      exact (timeline.begins_beginDrag id _ _ _).live

theorem ClipStep.shown
    {timeline later : Timeline}
    {id : String}
    {action : ClipAction}
    (step : ClipStep timeline id action later) :
    later.editors.map ClipEditor.shown = timeline.editors.map ClipEditor.shown := by
  cases step with
  | same =>
      rfl
  | changed _ shown =>
      exact timeline.modifyClip_shown shown id
  | dragged =>
      exact (timeline.begins_beginDrag id _ _ _).shown

theorem ClipStep.clips
    {timeline later : Timeline}
    {id : String}
    {action : ClipAction}
    (step : ClipStep timeline id action later) :
    later.editors.map ClipEditor.clip = timeline.editors.map ClipEditor.clip := by
  have same := congrArg (List.map Prod.fst) step.shown
  rw [List.map_map, List.map_map] at same
  exact same

/-- The drags go on, and one more may begin. -/
theorem ClipStep.listening
    {timeline later : Timeline}
    {id : String}
    {action : ClipAction}
    (step : ClipStep timeline id action later)
    (exclusive : timeline.IsExclusive) :
    later.hub.listening = timeline.hub.listening ∨
      ∃ grip x area editor gesture,
        action = .beginDrag grip x area ∧
          timeline.BeginsOn id grip x area editor gesture ∧
          later.hub.listening = timeline.hub.listening ++ [{ gesture with active := true }] := by
  cases step with
  | same =>
      exact Or.inl rfl
  | changed =>
      exact Or.inl (congrArg PointerHub.listening (timeline.modifyClip_hub id _))
  | @dragged grip x area =>
      rcases timeline.beginDrag_cases id grip x area with
        ⟨-, same⟩ | ⟨editor, gesture, begins, begun⟩
      · exact Or.inl (congrArg PointerHub.listening same)
      · refine Or.inr ⟨grip, x, area, editor, gesture, rfl, begins, ?_⟩
        rw [begun]
        exact listening_startDrag (begins.keepsGrips.isExclusive exclusive) gesture

/-!
## Runs
-/

/-- An editor stays with its clip. -/
theorem owners_after
    {session : Session}
    (exclusive : session.timeline.IsExclusive)
    (action : Action) :
    session.timeline.owners <+: (session.after action).timeline.owners := by
  have refreshed := exclusive.owners_refresh session.world.clips
  cases touches : action.touchesTimeline with
  | false =>
      exact session.timeline_after touches ▸ List.prefix_refl _
  | true =>
      cases action with
      | refresh =>
          exact refreshed
      | onClip known action =>
          have step := session.refresh.clipStep_performOnClip known action
          exact refreshed.trans (owners_of_clips step.clips ▸ List.prefix_refl _)
      | pointerMove x =>
          exact owners_of_clips (session.timeline.pointerMove_clips x) ▸ List.prefix_refl _
      | pointerUp =>
          exact owners_of_clips session.timeline.pointerUp_clips ▸ List.prefix_refl _
      | _ =>
          exact absurd touches (by simp [Action.touchesTimeline])

/-- Editors stay at their places, and new ones come behind them. -/
theorem owners_run
    {session : Session}
    (exclusive : session.timeline.IsExclusive)
    (actions : List Action) :
    session.timeline.owners <+: (session.run actions).timeline.owners := by
  induction actions generalizing session with
  | nil =>
      exact List.prefix_refl _
  | cons action rest inductionHypothesis =>
      exact (owners_after exclusive action).trans
        (inductionHypothesis (isExclusive_after exclusive action))

/-- A drag began by pressing on a clip, and noted its times, the pointer and the area as they were. -/
structure BeganBy
    (session : Session)
    (action : Action)
    (id : String)
    (clip : Clip)
    (down area : Num)
    (gesture : Gesture ClipDrag) : Prop where
  isPress : action = .onClip id (.beginDrag gesture.owner.grip down area)
  latest : latestClip? session.world.clips id = some clip
  notes : gesture.Notes session.timeline.settings gesture.owner.grip clip.span down area

/-- A drag that goes on after an action went on before it, or began by it on an editor of the clip. -/
theorem listening_after
    {session : Session}
    (exclusive : session.timeline.IsExclusive)
    {action : Action}
    {gesture : Gesture ClipDrag}
    (listens : gesture ∈ (session.after action).timeline.hub.listening) :
    gesture ∈ session.timeline.hub.listening ∨
      ∃ id clip down area,
        session.BeganBy action id clip down area gesture ∧
          (session.after action).timeline.owners[gesture.owner.editor]? = some id := by
  have ofRefresh (other : Gesture ClipDrag)
      (isOther : other ∈ session.refresh.timeline.hub.listening) :
      other ∈ session.timeline.hub.listening := by
    change other ∈ (session.timeline.refresh _).hub.listening at isOther
    rwa [refresh_hub] at isOther
  cases touches : action.touchesTimeline with
  | false =>
      rw [session.timeline_after touches] at listens
      exact Or.inl listens
  | true =>
      cases action with
      | refresh =>
          exact Or.inl (ofRefresh gesture listens)
      | onClip known action =>
          have refreshed := exclusive.refresh session.world.clips
          have step := session.refresh.clipStep_performOnClip known action
          rcases step.listening refreshed with
            same | ⟨grip, x, area, editor, begun, rfl, begins, more⟩
          · exact Or.inl (ofRefresh gesture (same ▸ listens))
          · change _ ∈ (session.refresh.performOnClip known _).session.timeline.hub.listening
              at listens
            rw [more] at listens
            rcases List.mem_append.mp listens with isOld | isNew
            · exact Or.inl (ofRefresh gesture isOld)
            · obtain rfl := List.mem_singleton.mp isNew
              obtain rfl : begun.owner.grip = grip := begins.notes.grip
              have isEditor : session.refresh.timeline.editor? known = some editor := by
                rw [editor?, begins.found]
                exact begins.inPlace
              have latest := exclusive.latestClip?_of_editor? isEditor
              have notes := begins.notes.activate true
              have settings : session.refresh.timeline.settings = session.timeline.settings :=
                session.timeline.refresh_settings session.world.clips
              rw [settings] at notes
              refine Or.inr ⟨known, editor.clip, x, area, ⟨rfl, latest, notes⟩, ?_⟩
              change (session.refresh.performOnClip known _).session.timeline.owners[_]? = _
              rw [owners_of_clips step.clips, owners, List.getElem?_map, begins.inPlace]
              exact congrArg some (mem_of_latestClip? latest).2
      | pointerMove x =>
          exact Or.inl listens
      | pointerUp =>
          change gesture ∈ session.timeline.pointerUp.hub.listening at listens
          rw [listening_pointerUp exclusive.paired] at listens
          exact absurd listens List.not_mem_nil
      | _ =>
          exact absurd touches (by simp [Action.touchesTimeline])

/-- A drag that goes on after a run went on before it, or began in it; its editor is one of the clip. -/
theorem listening_run
    {session : Session}
    (exclusive : session.timeline.IsExclusive)
    {actions : List Action}
    {gesture : Gesture ClipDrag}
    (listens : gesture ∈ (session.run actions).timeline.hub.listening) :
    gesture ∈ session.timeline.hub.listening ∨
      ∃ before action since id clip down area,
        actions = before ++ action :: since ∧
          (session.run before).BeganBy action id clip down area gesture ∧
          (session.run actions).timeline.owners[gesture.owner.editor]? = some id := by
  induction actions generalizing session with
  | nil =>
      exact Or.inl listens
  | cons action rest inductionHypothesis =>
      have later := isExclusive_after exclusive action
      rcases inductionHypothesis later listens with
        before | ⟨before, press, since, id, clip, down, area, isRest, began, isOwner⟩
      · rcases listening_after exclusive before with
          earlier | ⟨id, clip, down, area, began, isOwner⟩
        · exact Or.inl earlier
        · obtain ⟨small, -⟩ := List.getElem?_eq_some_iff.mp isOwner
          have kept := List.prefix_iff_getElem?.mp (owners_run later rest) _ small
          rw [← List.getElem?_eq_getElem small, isOwner] at kept
          exact Or.inr ⟨[], action, rest, id, clip, down, area, rfl, began, kept⟩
      · exact Or.inr ⟨action :: before, press, since, id, clip, down, area,
          congrArg (action :: ·) isRest, began, isOwner⟩

end Session

end SceneEditor
