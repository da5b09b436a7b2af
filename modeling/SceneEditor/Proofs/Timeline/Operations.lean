import SceneEditor.Proofs.Timeline.Drags

namespace SceneEditor

/-!
# Operations on the timeline

No operation gives an editor to another clip or lets go of an editor that is held, the release of
the pointer apart, and only an editor that is idle can be held.  So the editors stay exclusive
whatever is done.  Drags become stray only when the editors are brought in line with clips among which the
dragged one is missing.
-/

namespace ClipEditor

/-- An editor stays with its clip, and stays held if it is held. -/
structure KeepsGrip (before after : ClipEditor) : Prop where
  clip : after.clip.id = before.clip.id
  held : ∀ grip, before.state = .gripped grip → after.state = .gripped grip

theorem KeepsGrip.refl (editor : ClipEditor) :
    KeepsGrip editor editor :=
  ⟨rfl, fun _ held => held⟩

/-- An editor that is not held may get any state. -/
theorem KeepsGrip.of_free
    {before after : ClipEditor}
    (clip : after.clip.id = before.clip.id)
    (free : ∀ grip, before.state ≠ .gripped grip) :
    KeepsGrip before after :=
  ⟨clip, fun grip held => absurd held (free grip)⟩

theorem keepsGrip_beginRename (editor : ClipEditor) :
    KeepsGrip editor editor.beginRename.1 := by
  unfold beginRename
  split
  · next idle =>
    exact KeepsGrip.of_free rfl (by simp [idle])
  · exact KeepsGrip.refl editor

theorem keepsGrip_typeName
    (editor : ClipEditor)
    (name : String) :
    KeepsGrip editor (editor.typeName name) := by
  unfold typeName
  split
  · exact ⟨rfl, fun _ held => held⟩
  · exact KeepsGrip.refl editor

theorem keepsGrip_commitRename (editor : ClipEditor) :
    KeepsGrip editor editor.commitRename.1 := by
  unfold commitRename
  split
  · next naming =>
    exact KeepsGrip.of_free rfl (by simp [naming])
  · exact KeepsGrip.refl editor

theorem keepsGrip_cancelRename (editor : ClipEditor) :
    KeepsGrip editor editor.cancelRename := by
  unfold cancelRename
  split
  · next naming =>
    exact KeepsGrip.of_free rfl (by simp [naming])
  · exact KeepsGrip.refl editor

end ClipEditor

namespace Timeline

/-- The drags are the same, editors stay with their clips, and held editors stay held. -/
structure KeepsGrips (before after : Timeline) : Prop where
  hub : after.hub = before.hub
  live : after.live.Sublist before.live
  standing :
    ∀ place id state,
      before.standing? place = some (id, state) →
        ∃ later,
          after.standing? place = some (id, later) ∧
            ∀ grip, state = .gripped grip → later = .gripped grip

/-- What keeps how each editor stands keeps the grips. -/
theorem KeepsGrips.of_standing
    {before after : Timeline}
    (hub : after.hub = before.hub)
    (live : after.live.Sublist before.live)
    (same : after.editors.map ClipEditor.standing = before.editors.map ClipEditor.standing) :
    KeepsGrips before after where
  hub := hub
  live := live
  standing := by
    intro place id state standing
    refine ⟨state, ?_, fun _ gripped => gripped⟩
    rw [standing?, ← List.getElem?_map] at standing ⊢
    rw [same]
    exact standing

/-- What keeps the grips keeps a timeline exclusive. -/
theorem KeepsGrips.isExclusive
    {before after : Timeline}
    (kept : KeepsGrips before after)
    (exclusive : before.IsExclusive) :
    after.IsExclusive := by
  have drags : after.drags = before.drags := congrArg PointerHub.owners kept.hub
  constructor
  · rw [kept.hub]
    exact exclusive.paired
  · rw [drags]
    exact exclusive.apart
  · intro drag member
    rw [drags] at member
    obtain ⟨id, standing⟩ := exclusive.held drag member
    obtain ⟨later, standing, gripped⟩ := kept.standing _ _ _ standing
    rw [gripped _ rfl] at standing
    exact ⟨id, standing⟩
  · intro entry member
    obtain ⟨state, standing⟩ := exclusive.named entry (kept.live.subset member)
    obtain ⟨later, standing, -⟩ := kept.standing _ _ _ standing
    exact ⟨later, standing⟩
  · exact exclusive.keyed.sublist (kept.live.map Prod.fst)

/-- A change that keeps the grip of one editor keeps all grips. -/
theorem keepsGrips_modify
    {timeline : Timeline}
    {place : Nat}
    {change : ClipEditor → ClipEditor}
    (keeps :
      ∀ editor, timeline.editors[place]? = some editor → editor.KeepsGrip (change editor)) :
    KeepsGrips timeline (timeline.modify place change) where
  hub := rfl
  live := List.Sublist.refl _
  standing := by
    intro other id state standing
    obtain ⟨editor, found, isStanding⟩ := Option.map_eq_some_iff.mp standing
    obtain ⟨rfl, rfl⟩ := Prod.mk.inj isStanding
    by_cases same : place = other
    · subst other
      have kept := keeps editor found
      refine ⟨(change editor).state, ?_, kept.held⟩
      simp [standing?, modify, found, ClipEditor.standing, kept.clip]
    · refine ⟨editor.state, ?_, fun _ gripped => gripped⟩
      simp [standing?, modify, same, found, ClipEditor.standing]

theorem keepsGrips_modifyClip
    (timeline : Timeline)
    (id : String)
    {change : ClipEditor → ClipEditor}
    (keeps : ∀ editor : ClipEditor, editor.KeepsGrip (change editor)) :
    KeepsGrips timeline (timeline.modifyClip id change) := by
  unfold modifyClip
  split
  · exact keepsGrips_modify fun editor _ => keeps editor
  · exact KeepsGrips.of_standing rfl (List.Sublist.refl _) rfl

/-!
## Bringing the editors in line
-/

theorem place?_eq_none
    {timeline : Timeline}
    {id : String}
    (missing : timeline.place? id = none) :
    id ∉ timeline.live.map Prod.fst := by
  intro member
  obtain ⟨entry, isEntry, rfl⟩ := List.mem_map.mp member
  have differs := List.find?_eq_none.mp (Option.map_eq_none_iff.mp missing) entry isEntry
  exact differs (beq_self_eq_true entry.1)

/-- A new editor comes behind the others, and is held by no drag. -/
theorem IsExclusive.addEditor
    {timeline : Timeline}
    (exclusive : timeline.IsExclusive)
    {clip : Clip}
    (missing : timeline.place? clip.id = none) :
    IsExclusive
      { timeline with
        editors := timeline.editors ++ [ClipEditor.of clip]
        live := timeline.live ++ [(clip.id, timeline.editors.length)] } := by
  have old
      {place : Nat}
      {standing : String × ClipState}
      (stands : timeline.standing? place = some standing) :
      ((timeline.editors ++ [ClipEditor.of clip])[place]?).map ClipEditor.standing =
        some standing := by
    obtain ⟨editor, found, isStanding⟩ := Option.map_eq_some_iff.mp stands
    obtain ⟨small, -⟩ := List.getElem?_eq_some_iff.mp found
    rw [List.getElem?_append_left small, found]
    exact congrArg some isStanding
  constructor
  · exact exclusive.paired
  · exact exclusive.apart
  · intro drag member
    obtain ⟨id, standing⟩ := exclusive.held drag member
    exact ⟨id, old standing⟩
  · intro entry member
    rcases List.mem_append.mp member with isOld | isNew
    · obtain ⟨state, standing⟩ := exclusive.named entry isOld
      exact ⟨state, old standing⟩
    · rw [List.mem_singleton.mp isNew]
      exact ⟨.idle, by simp [standing?, ClipEditor.standing, ClipEditor.of]⟩
  · rw [List.map_append]
    exact List.nodup_append.mpr ⟨exclusive.keyed, List.nodup_singleton _, by
      intro id isOld other isNew same
      rw [List.map_singleton, List.mem_singleton] at isNew
      rw [same, isNew] at isOld
      exact place?_eq_none missing isOld⟩

/-- Adding an editor keeps a timeline exclusive. -/
theorem IsExclusive.enlist
    {timeline : Timeline}
    (exclusive : timeline.IsExclusive)
    (clip : Clip) :
    (timeline.enlist clip).IsExclusive := by
  unfold Timeline.enlist
  split
  · next place found =>
    apply KeepsGrips.isExclusive _ exclusive
    apply keepsGrips_modify
    intro editor isEditor
    obtain ⟨state, standing⟩ := exclusive.named _ (place?_eq_some found)
    rw [standing?, isEditor] at standing
    exact ⟨(Prod.mk.inj (Option.some.inj standing)).1.symm, fun _ held => held⟩
  · next missing =>
    exact exclusive.addEditor missing

/-- What every clip that is enlisted keeps is kept when all are. -/
theorem foldl_enlist_induction
    {motive : Timeline → Prop}
    (kept : ∀ timeline clip, motive timeline → motive (timeline.enlist clip))
    (clips : List Clip)
    {timeline : Timeline}
    (holds : motive timeline) :
    motive (clips.foldl enlist timeline) := by
  induction clips generalizing timeline with
  | nil =>
      exact holds
  | cons clip rest inductionHypothesis =>
      exact inductionHypothesis (kept timeline clip holds)

/-- The timeline without the editors of the clips that are gone. -/
def withoutGone (timeline : Timeline) (clips : List Clip) : Timeline :=
  { timeline with live := timeline.live.filter fun (id, _) => clips.any fun clip => clip.id == id }

/-- A refresh drops the editors of clips that are gone and then adds clip by clip. -/
theorem refresh_eq
    (timeline : Timeline)
    (clips : List Clip) :
    timeline.refresh clips = clips.foldl enlist (timeline.withoutGone clips) :=
  rfl

theorem keepsGrips_withoutGone
    (timeline : Timeline)
    (clips : List Clip) :
    KeepsGrips timeline (timeline.withoutGone clips) :=
  KeepsGrips.of_standing rfl List.filter_sublist rfl

/-- A refresh keeps a timeline exclusive. -/
theorem IsExclusive.refresh
    {timeline : Timeline}
    (exclusive : timeline.IsExclusive)
    (clips : List Clip) :
    (timeline.refresh clips).IsExclusive := by
  rw [refresh_eq]
  apply foldl_enlist_induction (motive := IsExclusive) fun _ clip holds => holds.enlist clip
  exact (timeline.keepsGrips_withoutGone clips).isExclusive exclusive

theorem enlist_hub
    (timeline : Timeline)
    (clip : Clip) :
    (timeline.enlist clip).hub = timeline.hub := by
  unfold enlist
  split <;> rfl

theorem refresh_hub
    (timeline : Timeline)
    (clips : List Clip) :
    (timeline.refresh clips).hub = timeline.hub := by
  rw [refresh_eq]
  apply foldl_enlist_induction (motive := fun later => later.hub = timeline.hub)
  · intro later clip same
    exact (later.enlist_hub clip).trans same
  · rfl

/-- A refresh ends no drag. -/
theorem drags_refresh
    (timeline : Timeline)
    (clips : List Clip) :
    (timeline.refresh clips).drags = timeline.drags :=
  congrArg PointerHub.owners (timeline.refresh_hub clips)

theorem mem_live_enlist
    {timeline : Timeline}
    {entry : String × Nat}
    (member : entry ∈ timeline.live)
    (clip : Clip) :
    entry ∈ (timeline.enlist clip).live := by
  unfold enlist
  split
  · exact member
  · exact List.mem_append_left _ member

/-- A current clip keeps its editor. -/
theorem mem_live_refresh
    {timeline : Timeline}
    {entry : String × Nat}
    {clips : List Clip}
    (member : entry ∈ timeline.live)
    (present : ∃ clip ∈ clips, clip.id = entry.1) :
    entry ∈ (timeline.refresh clips).live := by
  rw [refresh_eq]
  apply foldl_enlist_induction (motive := fun later => entry ∈ later.live)
  · intro later clip isEntry
    exact mem_live_enlist isEntry clip
  · obtain ⟨clip, isClip, same⟩ := present
    exact List.mem_filter.mpr ⟨member, List.any_eq_true.mpr ⟨clip, isClip, beq_iff_eq.mpr same⟩⟩

/-- The clip of some drag is not among the clips. -/
def losesDrag (timeline : Timeline) (clips : List Clip) : Bool :=
  timeline.drags.any fun drag => !clips.any fun clip => timeline.dragsClip clip.id drag

/-- No drag strays exactly if the editor of each is live. -/
theorem strays_eq_nil_iff {timeline : Timeline} :
    timeline.strays = [] ↔ ∀ drag ∈ timeline.drags, timeline.isLive drag.editor = true := by
  simp [strays, List.filter_eq_nil_iff]

/-- No drag becomes stray as long as the dragged clips are there. -/
theorem IsExclusive.strays_refresh
    {timeline : Timeline}
    (exclusive : timeline.IsExclusive)
    {clips : List Clip}
    (noStray : timeline.strays = [])
    (keepsDrags : timeline.losesDrag clips = false) :
    (timeline.refresh clips).strays = [] := by
  rw [strays_eq_nil_iff] at noStray ⊢
  intro drag member
  rw [drags_refresh] at member
  obtain ⟨⟨id, place⟩, isEntry, same⟩ := List.any_eq_true.mp (noStray drag member)
  obtain rfl : place = drag.editor := by
    simpa using same
  obtain ⟨state, standing⟩ := exclusive.named _ isEntry
  have present : ∃ clip ∈ clips, clip.id = id := by
    have kept := List.any_eq_false.mp keepsDrags drag member
    rw [Bool.not_eq_true', Bool.not_eq_false] at kept
    obtain ⟨clip, isClip, ofClip⟩ := List.any_eq_true.mp kept
    rw [dragsClip, standing, Option.any_some, beq_iff_eq] at ofClip
    exact ⟨clip, isClip, ofClip.symm⟩
  exact List.any_eq_true.mpr ⟨(id, drag.editor), mem_live_refresh isEntry present, same⟩

/-!
## Drags
-/

/-- The timeline with one more gesture, which listens. -/
def startDrag (timeline : Timeline) (gesture : Gesture ClipDrag) : Timeline :=
  { timeline with hub := (timeline.hub.make gesture).start timeline.hub.gestures.length }

/-- A drag that is started comes behind the others. -/
theorem drags_startDrag
    {timeline : Timeline}
    (exclusive : timeline.IsExclusive)
    (gesture : Gesture ClipDrag) :
    (timeline.startDrag gesture).drags = timeline.drags ++ [gesture.owner] :=
  PointerHub.owners_start_make exclusive.paired gesture

/-- A drag may begin on an editor that is held, but by no drag yet. -/
theorem IsExclusive.startDrag
    {timeline : Timeline}
    (exclusive : timeline.IsExclusive)
    {gesture : Gesture ClipDrag}
    (free : gesture.owner.editor ∉ timeline.drags.map ClipDrag.editor)
    (held :
      ∃ id, timeline.standing? gesture.owner.editor = some (id, .gripped gesture.owner.grip)) :
    (timeline.startDrag gesture).IsExclusive := by
  have drags := drags_startDrag exclusive gesture
  constructor
  · exact (exclusive.paired.make gesture).start (by simp [PointerHub.make])
  · rw [drags, List.map_append]
    refine List.nodup_append.mpr ⟨exclusive.apart, List.nodup_singleton _, ?_⟩
    intro place isOld other isNew same
    rw [List.map_singleton, List.mem_singleton] at isNew
    rw [same, isNew] at isOld
    exact free isOld
  · intro drag member
    rw [drags] at member
    rcases List.mem_append.mp member with isOld | isNew
    · exact exclusive.held drag isOld
    · rw [List.mem_singleton.mp isNew]
      exact held
  · exact exclusive.named
  · exact exclusive.keyed

/-- What beginning a drag does: nothing, or an idle editor of a current clip is held. -/
inductive Begins (timeline : Timeline) (id : String) (grip : Grip) : Timeline → Prop where
  | refused :
      Begins timeline id grip timeline
  | unmeasured {place : Nat} {editor : ClipEditor}
      (found : timeline.place? id = some place)
      (inPlace : timeline.editors[place]? = some editor)
      (idle : editor.state = .idle) :
      Begins timeline id grip (timeline.modify place fun editor => editor.hold grip)
  | begun {place : Nat} {editor : ClipEditor} {gesture : Gesture ClipDrag}
      (found : timeline.place? id = some place)
      (inPlace : timeline.editors[place]? = some editor)
      (idle : editor.state = .idle)
      (holds : gesture.owner.editor = place ∧ gesture.owner.grip = grip) :
      Begins timeline id grip
        ((timeline.modify place fun editor => editor.hold grip).startDrag gesture)

/-- Beginning a drag does what is said of it. -/
theorem begins_beginDrag
    (timeline : Timeline)
    (id : String)
    (grip : Grip)
    (x area : Num) :
    Begins timeline id grip (timeline.beginDrag id grip x area).1 := by
  unfold beginDrag
  split
  · next place editor found isEditor =>
    have inPlace : timeline.editors[place]? = some editor := by
      simpa [editor?, found] using isEditor
    split
    · next idle =>
      dsimp only
      split
      · exact .unmeasured found inPlace idle
      · exact .begun found inPlace idle ⟨rfl, rfl⟩
    · exact .refused
  · exact .refused

theorem keepsGrips_hold
    {timeline : Timeline}
    {place : Nat}
    {editor : ClipEditor}
    (inPlace : timeline.editors[place]? = some editor)
    (idle : editor.state = .idle)
    (grip : Grip) :
    KeepsGrips timeline (timeline.modify place fun editor => editor.hold grip) := by
  apply keepsGrips_modify
  intro other isOther
  rw [inPlace] at isOther
  obtain rfl := Option.some.inj isOther
  exact ClipEditor.KeepsGrip.of_free rfl (by simp [idle])

/-- Beginning a drag keeps a timeline exclusive. -/
theorem Begins.isExclusive
    {timeline later : Timeline}
    {id : String}
    {grip : Grip}
    (begins : Begins timeline id grip later)
    (exclusive : timeline.IsExclusive) :
    later.IsExclusive := by
  cases begins with
  | refused =>
      exact exclusive
  | unmeasured found inPlace idle =>
      exact (keepsGrips_hold inPlace idle grip).isExclusive exclusive
  | @begun place editor gesture found inPlace idle holds =>
      obtain ⟨rfl, rfl⟩ := holds
      apply ((keepsGrips_hold inPlace idle gesture.owner.grip).isExclusive exclusive).startDrag
      · intro isHeld
        obtain ⟨drag, member, same⟩ := List.mem_map.mp isHeld
        obtain ⟨known, standing⟩ := exclusive.held drag member
        rw [same, standing?, inPlace] at standing
        have gripped := (Prod.mk.inj (Option.some.inj standing)).2
        exact absurd (idle.symm.trans gripped) (by simp)
      · exact ⟨editor.clip.id, by
          simp [standing?, modify, inPlace, ClipEditor.standing, ClipEditor.hold]⟩

/-- A drag begins on the editor of a current clip, and so it is not stray. -/
theorem Begins.strays
    {timeline later : Timeline}
    {id : String}
    {grip : Grip}
    (begins : Begins timeline id grip later)
    (exclusive : timeline.IsExclusive)
    (noStray : timeline.strays = []) :
    later.strays = [] := by
  cases begins with
  | refused | unmeasured =>
      exact noStray
  | @begun place editor gesture found inPlace idle holds =>
      rw [strays_eq_nil_iff] at noStray ⊢
      intro drag member
      rw [drags_startDrag ((keepsGrips_hold inPlace idle grip).isExclusive exclusive)] at member
      rcases List.mem_append.mp member with isOld | isNew
      · exact noStray drag isOld
      · rw [List.mem_singleton.mp isNew, holds.1]
        exact List.any_eq_true.mpr ⟨(id, place), place?_eq_some found, beq_self_eq_true place⟩

end Timeline

end SceneEditor
