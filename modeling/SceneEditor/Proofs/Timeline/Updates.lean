import SceneEditor.Proofs.Attempt
import SceneEditor.Proofs.Timeline.Operations

namespace SceneEditor

/-!
# What drags send

A move of the pointer reaches the drags one after another, and each of them sends new times for the
clip of the editor that it holds.  So a clip gets as many updates as it has drags, or fewer if the
arithmetic of one fails.  The release of the pointer ends all drags, because letting go of
an editor never fails.
-/

/-- An editor shows what it sends: times for its own clip, of which it keeps the record. -/
theorem ClipEditor.preview_eq_ok_iff
    {editor changed : ClipEditor}
    {span : Track.Span}
    {command : Command} :
    editor.preview span = .ok (changed, command) ↔
      ∃ startTime endTime,
        span.start.toReal = .ok startTime ∧
          span.stop.toReal = .ok endTime ∧
          changed = { editor with preview? := some span } ∧
          command = editor.update startTime endTime := by
  simp only [preview, Attempt.bind_eq_ok_iff]
  constructor
  · rintro ⟨startTime, starts, endTime, stops, same⟩
    obtain ⟨rfl, rfl⟩ := Prod.mk.inj (Except.ok.inj same)
    exact ⟨startTime, endTime, starts, stops, rfl, rfl⟩
  · rintro ⟨startTime, endTime, starts, stops, rfl, rfl⟩
    exact ⟨startTime, starts, endTime, stops, rfl⟩

namespace Timeline

/-- The editors after a move, and what was sent. -/
def moved (timeline : Timeline) (x : Num) : MoveState :=
  (timeline.hub.pointerMove (dragMoved timeline.settings x) { editors := timeline.editors }).1

/-- How many times a clip is updated by a move of the pointer. -/
def updatesAt (timeline : Timeline) (x : Num) (id : String) : Nat :=
  (timeline.pointerMove x).2.1.countP (Command.updates id)

/-- A drag that hears of a move does nothing, or sends one command for the clip of its editor. -/
theorem dragMoved_cases
    (settings : TimelineSettings)
    (x : Num)
    (gesture : Gesture ClipDrag)
    (state : MoveState) :
    (dragMoved settings x gesture state).1 = state ∨
      ∃ editor span startTime endTime,
        state.editors[gesture.owner.editor]? = some editor ∧
          (dragMoved settings x gesture state).1 =
            { editors :=
                state.editors.set gesture.owner.editor { editor with preview? := some span }
              sent := state.sent ++ [editor.update startTime endTime] } := by
  unfold dragMoved
  dsimp only
  split
  · exact Or.inl rfl
  · next editor found =>
    split
    · exact Or.inl rfl
    · next changed command succeeds =>
      obtain ⟨delta, -, succeeds⟩ := Attempt.bind_eq_ok_iff.mp succeeds
      obtain ⟨span, -, previewed⟩ := Attempt.bind_eq_ok_iff.mp succeeds
      obtain ⟨startTime, endTime, -, -, rfl, rfl⟩ := ClipEditor.preview_eq_ok_iff.mp previewed
      exact Or.inr ⟨editor, span, startTime, endTime, found, rfl⟩

/-- The gesture at a place drags the clip. -/
def dragsClipAt (timeline : Timeline) (id : String) (place : Nat) : Bool :=
  ((timeline.hub.gestures[place]?).map Gesture.owner).any (timeline.dragsClip id)

/-- A clip is dragged by as many listeners as there are drags of it. -/
theorem countP_dragsClipAt
    (timeline : Timeline)
    (id : String) :
    timeline.hub.moveListeners.countP (timeline.dragsClipAt id) =
      timeline.drags.countP (timeline.dragsClip id) := by
  rw [drags, PointerHub.owners, List.countP_filterMap]
  congr 1
  funext place
  rw [dragsClipAt]
  cases (timeline.hub.gestures[place]?).map Gesture.owner with
  | none =>
      rfl
  | some drag =>
      rfl

/-- An editor that is replaced by one that looks the same leaves the view of all as it was. -/
theorem map_set_of_same
    {editors : List ClipEditor}
    {place : Nat}
    {editor changed : ClipEditor}
    {view : ClipEditor → α}
    (found : editors[place]? = some editor)
    (same : view changed = view editor) :
    (editors.set place changed).map view = editors.map view := by
  obtain ⟨small, rfl⟩ := List.getElem?_eq_some_iff.mp found
  rw [List.map_set, same]
  apply List.ext_getElem?
  intro other
  by_cases isPlace : place = other
  · subst other
    simp [small]
  · rw [List.getElem?_set_ne isPlace]

theorem exists_of_map_eq
    {before after : List ClipEditor}
    {view : ClipEditor → α}
    (same : after.map view = before.map view)
    {place : Nat}
    {editor : ClipEditor}
    (found : before[place]? = some editor) :
    ∃ later, after[place]? = some later ∧ view later = view editor := by
  have viewed : (after[place]?).map view = some (view editor) := by
    rw [← List.getElem?_map, same, List.getElem?_map, found]
    rfl
  exact Option.map_eq_some_iff.mp viewed

/--
The editors stand as before the move, and the updates of a clip so far are no more than its drags
less those that are still to come.
-/
theorem moved_keeps
    (timeline : Timeline)
    (x : Num)
    (id : String) :
    (timeline.moved x).editors.map ClipEditor.standing =
        timeline.editors.map ClipEditor.standing ∧
      timeline.updatesAt x id ≤ timeline.drags.countP (timeline.dragsClip id) := by
  let invariant (waiting : List Nat) (state : MoveState) : Prop :=
    state.editors.map ClipEditor.standing = timeline.editors.map ClipEditor.standing ∧
      state.sent.countP (Command.updates id) + waiting.countP (timeline.dragsClipAt id) ≤
        timeline.drags.countP (timeline.dragsClip id)
  have kept
      (place : Nat)
      (waiting : List Nat)
      (state : MoveState)
      (holds : invariant (place :: waiting) state) :
      invariant waiting
        (timeline.hub.tell (dragMoved timeline.settings x) place state).1 := by
    obtain ⟨same, counts⟩ := holds
    have unchanged : invariant waiting state := by
      rw [List.countP_cons] at counts
      exact ⟨same, Nat.le_trans (by omega) counts⟩
    unfold PointerHub.tell
    split
    · next gesture found =>
      rcases dragMoved_cases timeline.settings x gesture state with
        silent | ⟨editor, span, startTime, endTime, isEditor, sends⟩
      · rw [silent]
        exact unchanged
      · have stands : timeline.standing? gesture.owner.editor = some editor.standing := by
          rw [standing?, ← List.getElem?_map, ← same, List.getElem?_map, isEditor]
          rfl
        have dragged :
            timeline.dragsClipAt id place = (editor.update startTime endTime).updates id := by
          rw [dragsClipAt, found, Option.map_some, Option.any_some, dragsClip, stands]
          rfl
        rw [sends]
        constructor
        · have standing :
              ClipEditor.standing { editor with preview? := some span } = editor.standing :=
            rfl
          exact (map_set_of_same isEditor standing).trans same
        · rw [List.countP_append, List.countP_singleton]
          rw [List.countP_cons, dragged] at counts
          omega
    · exact unchanged
  have start : invariant timeline.hub.moveListeners { editors := timeline.editors } := by
    refine ⟨rfl, ?_⟩
    rw [countP_dragsClipAt]
    simp
  obtain ⟨same, counts⟩ := PointerHub.deliver_keeps kept start
  exact ⟨same, Nat.le_trans (Nat.le_add_right _ _) counts⟩

theorem keepsGrips_pointerMove
    (timeline : Timeline)
    (x : Num) :
    KeepsGrips timeline (timeline.pointerMove x).1 :=
  KeepsGrips.of_standing rfl (List.Sublist.refl _) (timeline.moved_keeps x "").1

/-- A move leaves every editor its record. -/
theorem pointerMove_clips
    (timeline : Timeline)
    (x : Num) :
    (timeline.pointerMove x).1.editors.map ClipEditor.clip =
      timeline.editors.map ClipEditor.clip := by
  let invariant (_ : List Nat) (state : MoveState) : Prop :=
    state.editors.map ClipEditor.clip = timeline.editors.map ClipEditor.clip
  have kept
      (place : Nat)
      (waiting : List Nat)
      (state : MoveState)
      (holds : invariant (place :: waiting) state) :
      invariant waiting
        (timeline.hub.tell (dragMoved timeline.settings x) place state).1 := by
    rcases timeline.hub.tell_cases (dragMoved timeline.settings x) place state with
      same | ⟨gesture, told⟩
    · rw [same]
      exact holds
    · rw [told]
      rcases dragMoved_cases timeline.settings x gesture state with
        silent | ⟨editor, span, startTime, endTime, isEditor, sends⟩
      · rw [silent]
        exact holds
      · rw [sends]
        have clip : ClipEditor.clip { editor with preview? := some span } = editor.clip := rfl
        exact (map_set_of_same isEditor clip).trans holds
  have start : invariant timeline.hub.moveListeners { editors := timeline.editors } :=
    rfl
  exact PointerHub.deliver_keeps kept start

/-!
## The release of the pointer
-/

/-- A drag that ends does nothing else to the hub. -/
theorem dragEnded_acts (hub : PointerHub ClipDrag) :
    PointerHub.ActsThrough hub (PointerHub.aside dragEnded) (fun _ => False) where
  operates := fun _ _ _ => PointerHub.Leads.refl
  starts := fun _ _ _ _ _ _ => Nat.le_refl _

/-- Letting the pointer go leaves a paired hub without listeners. -/
theorem pointerUp_hub
    {timeline : Timeline}
    (paired : timeline.hub.IsPaired) :
    timeline.pointerUp.hub.IsPaired ∧ timeline.pointerUp.hub.upListeners = [] := by
  obtain ⟨leads, -⟩ := (dragEnded_acts timeline.hub).count_pointerUpWith timeline.editors
  refine ⟨leads.isPaired paired, ?_⟩
  have succeeds : (timeline.hub.pointerUp dragEnded timeline.editors).2 = none :=
    Option.eq_none_iff_forall_not_mem.mpr fun failure => failure.elim
  have left :
      timeline.pointerUp.hub.upListeners =
        PointerHub.unreached (PointerHub.finish (PointerHub.aside dragEnded))
          timeline.hub.upListeners (timeline.hub, timeline.editors) :=
    PointerHub.upListeners_pointerUpWith (fun _ _ => rfl) timeline.editors
  exact left.trans (PointerHub.unreached_of_succeeds succeeds)

/-- No drag is left once the pointer is let go. -/
theorem drags_pointerUp
    {timeline : Timeline}
    (paired : timeline.hub.IsPaired) :
    timeline.pointerUp.drags = [] := by
  obtain ⟨released, silent⟩ := pointerUp_hub paired
  exact PointerHub.owners_of_silent (released.same.trans silent)

/-- A change that leaves a view of every editor leaves the view of all as it was. -/
theorem map_modify_of_same
    {change : ClipEditor → ClipEditor}
    {view : ClipEditor → α}
    (same : ∀ editor, view (change editor) = view editor)
    (editors : List ClipEditor)
    (place : Nat) :
    (editors.modify place change).map view = editors.map view := by
  apply List.ext_getElem?
  intro other
  rw [List.getElem?_map, List.getElem?_map, List.getElem?_modify]
  cases editors[other]? with
  | none =>
      rfl
  | some editor =>
      by_cases isPlace : place = other
      · simp [isPlace, same]
      · simp [isPlace]

/-- Letting go leaves every editor its record. -/
theorem pointerUp_clips (timeline : Timeline) :
    timeline.pointerUp.editors.map ClipEditor.clip = timeline.editors.map ClipEditor.clip := by
  let invariant (_ : List Nat) (current : PointerHub ClipDrag × List ClipEditor) : Prop :=
    current.2.map ClipEditor.clip = timeline.editors.map ClipEditor.clip
  have kept
      (place : Nat)
      (waiting : List Nat)
      (current : PointerHub ClipDrag × List ClipEditor)
      (holds : invariant (place :: waiting) current) :
      invariant waiting (PointerHub.finish (PointerHub.aside dragEnded) place current).1 := by
    change (current.1.tell (PointerHub.aside dragEnded) place current).1.2.map _ = _
    rcases current.1.tell_cases (PointerHub.aside dragEnded) place current with
      same | ⟨gesture, told⟩
    · rw [same]
      exact holds
    · rw [told]
      have letGo (editor : ClipEditor) : editor.letGo.clip = editor.clip := rfl
      exact (map_modify_of_same letGo current.2 gesture.owner.editor).trans holds
  have start : invariant timeline.hub.upListeners (timeline.hub, timeline.editors) :=
    rfl
  exact PointerHub.deliver_keeps kept start

/-- Letting the pointer go keeps a timeline exclusive. -/
theorem IsExclusive.pointerUp
    {timeline : Timeline}
    (exclusive : timeline.IsExclusive) :
    timeline.pointerUp.IsExclusive := by
  have drags := drags_pointerUp exclusive.paired
  constructor
  · exact (pointerUp_hub exclusive.paired).1
  · rw [drags]
    exact List.nodup_nil
  · rw [drags]
    simp
  · intro entry member
    obtain ⟨state, standing⟩ := exclusive.named entry member
    obtain ⟨editor, found, isStanding⟩ := Option.map_eq_some_iff.mp standing
    obtain ⟨later, isLater, ofClip⟩ := exists_of_map_eq timeline.pointerUp_clips found
    have isEntry : editor.clip.id = entry.1 := (Prod.mk.inj isStanding).1
    exact ⟨later.state, by simp [standing?, isLater, ClipEditor.standing, ofClip, isEntry]⟩
  · exact exclusive.keyed

end Timeline

end SceneEditor
