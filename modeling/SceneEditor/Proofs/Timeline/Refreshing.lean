import SceneEditor.Proofs.Timeline.Operations

namespace SceneEditor

/-!
# Editors of the current clips

After the editors are brought in line with the clips, every clip that has an editor is there, and
its editor has the record that the clip has now, the last one if several have one identifier.
What was being done with an editor that was there before goes on.
-/

/-- The last of the clips with an identifier. -/
def latestClip? (clips : List Clip) (id : String) : Option Clip :=
  (clips.filter fun clip => clip.id == id).getLast?

/-- The latest clip of an id is the one furthest back. -/
theorem latestClip?_cons
    (clip : Clip)
    (clips : List Clip)
    (id : String) :
    latestClip? (clip :: clips) id =
      (latestClip? clips id).or (if clip.id = id then some clip else none) := by
  rw [latestClip?, latestClip?, List.filter_cons]
  by_cases same : clip.id = id
  · rw [if_pos (beq_iff_eq.mpr same), if_pos same, List.getLast?_cons]
    cases (clips.filter fun clip => clip.id == id).getLast? with
    | none | some =>
        rfl
  · rw [if_neg (by simpa using same), if_neg same, Option.or_none]

/-- The latest clip of an id is one of the clips and has the id. -/
theorem mem_of_latestClip?
    {clips : List Clip}
    {id : String}
    {clip : Clip}
    (latest : latestClip? clips id = some clip) :
    clip ∈ clips ∧ clip.id = id := by
  obtain ⟨member, same⟩ := List.mem_filter.mp (List.mem_of_getLast? latest)
  exact ⟨member, beq_iff_eq.mp same⟩

theorem latestClip?_eq_none_iff
    {clips : List Clip}
    {id : String} :
    latestClip? clips id = none ↔ ∀ clip ∈ clips, clip.id ≠ id := by
  rw [latestClip?, List.getLast?_eq_none_iff, List.filter_eq_nil_iff]
  simp only [beq_iff_eq, ne_eq]

namespace ClipEditor

/-- What was being done with an editor goes on, whatever its record is now. -/
structure GoesOn (before after : ClipEditor) : Prop where
  state : after.state = before.state
  preview? : after.preview? = before.preview?
  typedName : before.state = .naming → after.typedName = before.typedName

theorem GoesOn.refl (editor : ClipEditor) :
    GoesOn editor editor :=
  ⟨rfl, rfl, fun _ => rfl⟩

theorem GoesOn.trans
    {first second third : ClipEditor}
    (before : GoesOn first second)
    (later : GoesOn second third) :
    GoesOn first third where
  state := later.state.trans before.state
  preview? := later.preview?.trans before.preview?
  typedName naming :=
    (later.typedName (before.state.trans naming)).trans (before.typedName naming)

theorem goesOn_refresh
    (editor : ClipEditor)
    (clip : Clip) :
    GoesOn editor (editor.refresh clip) :=
  ⟨rfl, rfl, fun naming => if_pos naming⟩

end ClipEditor

namespace Timeline

/-- A place belongs to one entry, and an identifier names one place. -/
theorem IsExclusive.fst_eq_iff
    {timeline : Timeline}
    (exclusive : timeline.IsExclusive)
    {first second : String × Nat}
    (isFirst : first ∈ timeline.live)
    (isSecond : second ∈ timeline.live) :
    first.1 = second.1 ↔ first.2 = second.2 := by
  constructor
  · intro same
    have ofFirst : timeline.place? first.1 = some first.2 := exclusive.place?_of_mem isFirst
    have ofSecond : timeline.place? second.1 = some second.2 := exclusive.place?_of_mem isSecond
    rw [same] at ofFirst
    exact Option.some.inj (ofFirst.symm.trans ofSecond)
  · intro same
    obtain ⟨state, standing⟩ := exclusive.named _ isFirst
    obtain ⟨other, otherStanding⟩ := exclusive.named _ isSecond
    rw [same, otherStanding] at standing
    exact (Prod.mk.inj (Option.some.inj standing)).1.symm

/-- A live entry has its editor. -/
theorem IsExclusive.exists_editor
    {timeline : Timeline}
    (exclusive : timeline.IsExclusive)
    {entry : String × Nat}
    (member : entry ∈ timeline.live) :
    ∃ editor, timeline.editors[entry.2]? = some editor ∧ editor.clip.id = entry.1 := by
  obtain ⟨state, standing⟩ := exclusive.named entry member
  obtain ⟨editor, found, isStanding⟩ := Option.map_eq_some_iff.mp standing
  exact ⟨editor, found, (Prod.mk.inj isStanding).1⟩

/-- The editor of the clip that is enlisted has its record; those of other clips stay. -/
theorem IsExclusive.editor_enlist
    {timeline : Timeline}
    (exclusive : timeline.IsExclusive)
    {clip : Clip}
    {id : String}
    {place : Nat}
    (member : (id, place) ∈ (timeline.enlist clip).live) :
    (clip.id = id ∧
        ∃ editor, (timeline.enlist clip).editors[place]? = some editor ∧ editor.clip = clip) ∨
      (clip.id ≠ id ∧ (id, place) ∈ timeline.live ∧
        (timeline.enlist clip).editors[place]? = timeline.editors[place]?) := by
  revert member
  unfold Timeline.enlist
  split
  · next known found =>
    intro member
    have isKnown : (clip.id, known) ∈ timeline.live := place?_eq_some found
    have samePlace := exclusive.fst_eq_iff isKnown member
    by_cases same : clip.id = id
    · obtain rfl : known = place := samePlace.mp same
      obtain ⟨editor, isEditor, -⟩ := exclusive.exists_editor isKnown
      exact Or.inl ⟨same, editor.refresh clip, by simp [modify, isEditor], rfl⟩
    · exact Or.inr ⟨same, member, List.getElem?_modify_ne _ _ (mt samePlace.mpr same)⟩
  · next missing =>
    intro member
    rcases List.mem_append.mp member with isOld | isNew
    · obtain ⟨editor, isEditor, -⟩ := exclusive.exists_editor isOld
      obtain ⟨small, -⟩ := List.getElem?_eq_some_iff.mp isEditor
      refine Or.inr ⟨?_, isOld, List.getElem?_append_left small⟩
      rintro rfl
      exact place?_eq_none missing (List.mem_map_of_mem isOld)
    · obtain ⟨rfl, rfl⟩ := Prod.mk.inj (List.mem_singleton.mp isNew)
      exact Or.inl ⟨rfl, ClipEditor.of clip, List.getElem?_concat_length, rfl⟩

theorem IsExclusive.editor_foldl_enlist
    {timeline : Timeline}
    (exclusive : timeline.IsExclusive)
    {clips : List Clip}
    {id : String}
    {place : Nat}
    (member : (id, place) ∈ (clips.foldl Timeline.enlist timeline).live) :
    ∃ editor, (clips.foldl Timeline.enlist timeline).editors[place]? = some editor ∧
      (latestClip? clips id = some editor.clip ∨
        latestClip? clips id = none ∧ (id, place) ∈ timeline.live ∧
          timeline.editors[place]? = some editor) := by
  induction clips generalizing timeline with
  | nil =>
      obtain ⟨editor, found, -⟩ := exclusive.exists_editor member
      exact ⟨editor, found, Or.inr ⟨rfl, member, found⟩⟩
  | cons clip rest inductionHypothesis =>
      obtain ⟨editor, found, latest | ⟨noLater, isLive, wasFound⟩⟩ :=
        inductionHypothesis (exclusive.enlist clip) member
      · exact ⟨editor, found, Or.inl (by rw [latestClip?_cons, latest]; rfl)⟩
      · refine ⟨editor, found, ?_⟩
        rw [latestClip?_cons, noLater, Option.none_or]
        rcases exclusive.editor_enlist isLive with
          ⟨same, new, isNew, ofClip⟩ | ⟨other, old, kept⟩
        · obtain rfl := Option.some.inj (isNew.symm.trans wasFound)
          exact Or.inl (by rw [if_pos same, ofClip])
        · exact Or.inr ⟨if_neg other, old, kept.symm.trans wasFound⟩

/-- The editor of a current clip has the record that the clip has now. -/
theorem IsExclusive.editor_refresh
    {timeline : Timeline}
    (exclusive : timeline.IsExclusive)
    {clips : List Clip}
    {id : String}
    {place : Nat}
    (member : (id, place) ∈ (timeline.refresh clips).live) :
    ∃ editor, (timeline.refresh clips).editors[place]? = some editor ∧
      latestClip? clips id = some editor.clip := by
  have withoutGone := (timeline.keepsGrips_withoutGone clips).isExclusive exclusive
  obtain ⟨editor, found, latest | ⟨gone, isLive, -⟩⟩ :=
    withoutGone.editor_foldl_enlist member
  · exact ⟨editor, found, latest⟩
  · obtain ⟨clip, isClip, same⟩ := List.any_eq_true.mp (List.mem_filter.mp isLive).2
    exact absurd (beq_iff_eq.mp same) (latestClip?_eq_none_iff.mp gone clip isClip)

/-- After a refresh each editor shows the latest clip of its id. -/
theorem IsExclusive.latestClip?_of_editor?
    {timeline : Timeline}
    (exclusive : timeline.IsExclusive)
    {clips : List Clip}
    {id : String}
    {editor : ClipEditor}
    (found : (timeline.refresh clips).editor? id = some editor) :
    latestClip? clips id = some editor.clip := by
  obtain ⟨place, placed, isEditor⟩ := Option.bind_eq_some_iff.mp found
  obtain ⟨current, isCurrent, latest⟩ := exclusive.editor_refresh (place?_eq_some placed)
  obtain rfl := Option.some.inj (isCurrent.symm.trans isEditor)
  exact latest

theorem goesOn_enlist
    {timeline : Timeline}
    {place : Nat}
    {editor : ClipEditor}
    (found : timeline.editors[place]? = some editor)
    (clip : Clip) :
    ∃ later, (timeline.enlist clip).editors[place]? = some later ∧ editor.GoesOn later := by
  unfold enlist
  split
  · next known isKnown =>
    by_cases same : known = place
    · subst known
      exact ⟨editor.refresh clip, by simp [modify, found], editor.goesOn_refresh clip⟩
    · exact ⟨editor, (List.getElem?_modify_ne _ _ same).trans found, .refl editor⟩
  · obtain ⟨small, -⟩ := List.getElem?_eq_some_iff.mp found
    exact ⟨editor, (List.getElem?_append_left small).trans found, .refl editor⟩

/-- An editor goes on with what was being done with it, also when its clip has gone. -/
theorem goesOn_refresh
    {timeline : Timeline}
    {place : Nat}
    {editor : ClipEditor}
    (found : timeline.editors[place]? = some editor)
    (clips : List Clip) :
    ∃ later, (timeline.refresh clips).editors[place]? = some later ∧ editor.GoesOn later := by
  rw [refresh_eq]
  apply foldl_enlist_induction (motive := fun current =>
    ∃ later, current.editors[place]? = some later ∧ editor.GoesOn later)
  · rintro current clip ⟨later, isLater, goesOn⟩
    obtain ⟨next, isNext, more⟩ := goesOn_enlist isLater clip
    exact ⟨next, isNext, goesOn.trans more⟩
  · exact ⟨editor, found, .refl editor⟩

/-- A refresh keeps the preview. -/
theorem preview?_refresh
    {timeline : Timeline}
    {place : Nat}
    {editor : ClipEditor}
    (found : timeline.editors[place]? = some editor)
    (clips : List Clip) :
    ∃ later, (timeline.refresh clips).editors[place]? = some later ∧
      later.preview? = editor.preview? := by
  obtain ⟨later, isLater, goesOn⟩ := goesOn_refresh found clips
  exact ⟨later, isLater, goesOn.preview?⟩

end Timeline

end SceneEditor
