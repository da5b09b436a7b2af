import SceneEditor.Proofs.Timeline.Following
import SceneEditor.Proofs.Timeline.Refreshing

namespace SceneEditor

/-!
# Editors that are left alone

The pointer changes only editors that drags hold, and what is done with one clip changes only the
editor of that clip.  So an editor that no drag holds has no preview, whatever was done.
-/

namespace ClipEditor

/-- An editor that is not held shows the times of its record. -/
def IsPlain (editor : ClipEditor) : Prop :=
  editor.isGripped = false → editor.preview? = none

theorem isGripped_of_state
    {before after : ClipEditor}
    (state : after.state = before.state) :
    after.isGripped = before.isGripped := by
  rw [isGripped, isGripped, state]

/-- An editor is gripped exactly if its state holds a grip. -/
theorem isGripped_iff
    {editor : ClipEditor} :
    editor.isGripped = true ↔ ∃ grip, editor.state = .gripped grip := by
  unfold isGripped
  cases editor.state <;> simp

/-- An editor that goes on stays plain. -/
theorem GoesOn.isPlain
    {before after : ClipEditor}
    (goesOn : GoesOn before after)
    (plain : before.IsPlain) :
    after.IsPlain := by
  intro free
  rw [isGripped_of_state goesOn.state] at free
  exact goesOn.preview?.trans (plain free)

/-- A change that shows nothing else and does not let go leaves it so. -/
theorem KeepsGrip.isPlain
    {before after : ClipEditor}
    (kept : before.KeepsGrip after)
    (preview? : after.preview? = before.preview?)
    (plain : before.IsPlain) :
    after.IsPlain := by
  intro free
  refine preview?.trans (plain (Bool.eq_false_iff.mpr fun held => ?_))
  obtain ⟨grip, gripped⟩ := isGripped_iff.mp held
  have stillHeld := isGripped_iff.mpr ⟨grip, kept.held grip gripped⟩
  exact absurd (free.symm.trans stillHeld) Bool.false_ne_true

end ClipEditor

namespace Timeline

variable {timeline : Timeline} {place : Nat}

/-!
## The pointer
-/

/-- No drag holds the editor at a place. -/
def IsFree (timeline : Timeline) (place : Nat) : Prop :=
  ∀ drag ∈ timeline.drags, drag.editor ≠ place

/-- No gesture owns an editor that is not gripped. -/
theorem IsExclusive.isFree
    (exclusive : timeline.IsExclusive)
    {editor : ClipEditor}
    (found : timeline.editors[place]? = some editor)
    (free : editor.isGripped = false) :
    timeline.IsFree place := by
  rintro drag member rfl
  obtain ⟨id, standing⟩ := exclusive.held drag member
  rw [standing?, found] at standing
  have gripped := (Prod.mk.inj (Option.some.inj standing)).2
  have held := ClipEditor.isGripped_iff.mpr ⟨drag.grip, gripped⟩
  exact absurd (free.symm.trans held) Bool.false_ne_true

theorem IsFree.ne_owner
    (free : timeline.IsFree place)
    {number : Nat}
    (listens : number ∈ timeline.hub.moveListeners)
    {gesture : Gesture ClipDrag}
    (found : (timeline.hub.gestures[number]?).map Gesture.owner = some gesture.owner) :
    gesture.owner.editor ≠ place :=
  free gesture.owner (List.mem_filterMap.mpr ⟨number, listens, found⟩)

/-- A move leaves an editor alone that no drag holds. -/
theorem IsFree.editors_pointerMove
    (free : timeline.IsFree place)
    (x : Num) :
    (timeline.pointerMove x).1.editors[place]? = timeline.editors[place]? := by
  let invariant (waiting : List Nat) (state : MoveState) : Prop :=
    waiting ⊆ timeline.hub.moveListeners ∧ state.editors[place]? = timeline.editors[place]?
  have kept
      (number : Nat)
      (waiting : List Nat)
      (state : MoveState)
      (holds : invariant (number :: waiting) state) :
      invariant waiting
        (timeline.hub.tell (dragMoved timeline.settings x) number state).1 := by
    obtain ⟨listen, same⟩ := holds
    obtain ⟨listens, others⟩ := List.cons_subset.mp listen
    refine ⟨others, ?_⟩
    unfold PointerHub.tell
    split
    · next gesture found =>
      have other : gesture.owner.editor ≠ place := free.ne_owner listens (by rw [found]; rfl)
      rcases dragMoved_cases timeline.settings x gesture state with
        silent | ⟨editor, span, startTime, endTime, -, sends⟩
      · rw [silent]
        exact same
      · rw [sends]
        exact (List.getElem?_set_ne other).trans same
    · exact same
  have start : invariant timeline.hub.moveListeners { editors := timeline.editors } :=
    ⟨List.Subset.refl _, rfl⟩
  exact (PointerHub.deliver_keeps kept start).2

/-- The release of the pointer leaves an editor alone that no drag holds. -/
theorem IsFree.editors_pointerUp
    (free : timeline.IsFree place)
    (paired : timeline.hub.IsPaired) :
    timeline.pointerUp.editors[place]? = timeline.editors[place]? := by
  let invariant (waiting : List Nat) (current : PointerHub ClipDrag × List ClipEditor) : Prop :=
    waiting ⊆ timeline.hub.moveListeners ∧
      (∀ number : Nat,
        (current.1.gestures[number]?).map Gesture.owner =
          (timeline.hub.gestures[number]?).map Gesture.owner) ∧
      current.2[place]? = timeline.editors[place]?
  have kept
      (number : Nat)
      (waiting : List Nat)
      (current : PointerHub ClipDrag × List ClipEditor)
      (holds : invariant (number :: waiting) current) :
      invariant waiting (PointerHub.finish (PointerHub.aside dragEnded) number current).1 := by
    obtain ⟨listen, owners, same⟩ := holds
    obtain ⟨listens, others⟩ := List.cons_subset.mp listen
    rw [finish_dragEnded]
    refine ⟨others, fun other => ?_, ?_⟩
    · exact (owner_release current.1 number other).trans (owners other)
    · cases found : current.1.gestures[number]? with
      | none =>
          exact same
      | some gesture =>
          have owned := owners number
          rw [found] at owned
          have other : gesture.owner.editor ≠ place := free.ne_owner listens owned.symm
          exact (List.getElem?_modify_ne _ _ other).trans same
  have start : invariant timeline.hub.upListeners (timeline.hub, timeline.editors) :=
    ⟨paired.same ▸ List.Subset.refl _, fun _ => rfl, rfl⟩
  exact (PointerHub.deliver_keeps kept start).2.2

/-!
## Other clips
-/

/-- A change of another clip leaves the editor as it is. -/
theorem IsExclusive.editors_modifyClip_of_ne
    (exclusive : timeline.IsExclusive)
    {id known : String}
    (isLive : (id, place) ∈ timeline.live)
    (other : known ≠ id)
    (change : ClipEditor → ClipEditor) :
    (timeline.modifyClip known change).editors[place]? = timeline.editors[place]? := by
  unfold modifyClip
  split
  · next found =>
    have differs := mt (exclusive.fst_eq_iff (place?_eq_some found) isLive).mpr other
    exact List.getElem?_modify_ne _ _ differs
  · rfl

/-- A drag of another clip leaves the editor as it is. -/
theorem IsExclusive.editors_beginDrag_of_ne
    (exclusive : timeline.IsExclusive)
    {id known : String}
    (isLive : (id, place) ∈ timeline.live)
    (other : known ≠ id)
    (grip : Grip)
    (x area : Num) :
    (timeline.beginDrag known grip x area).1.editors[place]? = timeline.editors[place]? := by
  unfold beginDrag
  split
  · next held editor found isEditor =>
    have differs := mt (exclusive.fst_eq_iff (place?_eq_some found) isLive).mpr other
    have spared :
        (timeline.modify held fun editor => editor.hold grip).editors[place]? =
          timeline.editors[place]? :=
      List.getElem?_modify_ne _ _ differs
    split
    · dsimp only
      split <;> exact spared
    · rfl
  · rfl

/-- The only editor of a clip is the one that is changed. -/
theorem IsExclusive.editor_modifyClip
    (exclusive : timeline.IsExclusive)
    {id : String}
    (isLive : (id, place) ∈ timeline.live)
    {editor : ClipEditor}
    (found : timeline.editors[place]? = some editor)
    (change : ClipEditor → ClipEditor) :
    (timeline.modifyClip id change).editors[place]? = some (change editor) := by
  rw [modifyClip, exclusive.place?_of_mem isLive]
  simp [modify, found]

/-!
## All editors
-/

/-- Every editor that is not held shows the times of its record. -/
def IsPlain (timeline : Timeline) : Prop :=
  ∀ (place : Nat) (editor : ClipEditor),
    timeline.editors[place]? = some editor → editor.IsPlain

theorem isPlain_new (settings : TimelineSettings) :
    IsPlain { settings } :=
  fun _ _ found => absurd found (by simp)

theorem IsPlain.modify
    (plain : timeline.IsPlain)
    {change : ClipEditor → ClipEditor}
    (keeps : ∀ editor : ClipEditor, editor.IsPlain → (change editor).IsPlain) :
    (timeline.modify place change).IsPlain := by
  intro other later found
  by_cases same : place = other
  · subst other
    obtain ⟨editor, isEditor, rfl⟩ : ∃ editor, timeline.editors[place]? = some editor ∧
        change editor = later := by
      simpa [Timeline.modify] using found
    exact keeps editor (plain place editor isEditor)
  · exact plain other later ((List.getElem?_modify_ne _ _ same).symm.trans found)

theorem IsPlain.modifyClip
    (plain : timeline.IsPlain)
    (id : String)
    {change : ClipEditor → ClipEditor}
    (keeps : ∀ editor : ClipEditor, editor.IsPlain → (change editor).IsPlain) :
    (timeline.modifyClip id change).IsPlain := by
  unfold Timeline.modifyClip
  split
  · exact plain.modify keeps
  · exact plain

theorem IsPlain.enlist
    (plain : timeline.IsPlain)
    (clip : Clip) :
    (timeline.enlist clip).IsPlain := by
  unfold Timeline.enlist
  split
  · exact plain.modify fun editor => (editor.goesOn_refresh clip).isPlain
  · intro place editor found
    rcases List.mem_append.mp (List.mem_of_getElem? found) with isOld | isNew
    · obtain ⟨before, wasFound⟩ := List.mem_iff_getElem?.mp isOld
      exact plain before editor wasFound
    · rw [List.mem_singleton.mp isNew]
      exact fun _ => rfl

theorem IsPlain.refresh
    (plain : timeline.IsPlain)
    (clips : List Clip) :
    (timeline.refresh clips).IsPlain := by
  rw [refresh_eq]
  apply foldl_enlist_induction (motive := IsPlain) fun _ clip holds => holds.enlist clip
  exact plain

theorem Begins.isPlain
    {later : Timeline}
    {id : String}
    {grip : Grip}
    (begins : Begins timeline id grip later)
    (plain : timeline.IsPlain) :
    later.IsPlain := by
  have held (editor : ClipEditor) (_ : editor.IsPlain) : (editor.hold grip).IsPlain :=
    fun free => absurd free (by simp [ClipEditor.hold, ClipEditor.isGripped])
  cases begins with
  | refused =>
      exact plain
  | unmeasured | begun =>
      exact plain.modify held

theorem not_isFree_iff :
    ¬ timeline.IsFree place ↔ ∃ drag ∈ timeline.drags, drag.editor = place := by
  simp [IsFree]

theorem IsPlain.pointerMove
    (plain : timeline.IsPlain)
    (exclusive : timeline.IsExclusive)
    (x : Num) :
    (timeline.pointerMove x).1.IsPlain := by
  intro place later found
  by_cases free : timeline.IsFree place
  · rw [free.editors_pointerMove] at found
    exact plain place later found
  · obtain ⟨drag, member, rfl⟩ := not_isFree_iff.mp free
    have exclusiveLater := (timeline.keepsGrips_pointerMove x).isExclusive exclusive
    intro notHeld
    exact absurd rfl (exclusiveLater.isFree found notHeld drag member)

theorem IsPlain.pointerUp
    (plain : timeline.IsPlain)
    (exclusive : timeline.IsExclusive) :
    timeline.pointerUp.IsPlain := by
  intro place later found
  by_cases free : timeline.IsFree place
  · rw [free.editors_pointerUp exclusive.paired] at found
    exact plain place later found
  · obtain ⟨drag, member, rfl⟩ := not_isFree_iff.mp free
    rw [drags, PointerHub.owners_eq] at member
    obtain ⟨gesture, listens, rfl⟩ := List.mem_map.mp member
    obtain ⟨editor, isEditor, -⟩ := exclusive.exists_held listens
    obtain ⟨idle, isIdle, -, -, noPreview⟩ := exclusive.pointerUp_letsGo listens isEditor
    obtain rfl := Option.some.inj (isIdle.symm.trans found)
    exact fun _ => noPreview

end Timeline

end SceneEditor
