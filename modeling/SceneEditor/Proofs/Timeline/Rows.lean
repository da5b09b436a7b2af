import Mathlib.Data.List.Induction
import Mathlib.Data.List.Perm.Basic
import SceneEditor.Proofs.Timeline.Refreshing

namespace SceneEditor

/-!
# Rows of the timeline

After the editors are brought in line with clips that have different identifiers, there is one editor
for each clip and no other.  A clip that had an editor keeps it, with all that is being done with
it, and the others get new ones.

The rows show these editors by target.  The targets stand in the order in which they first occur
among the clips, and the clips of a target in their own order.
-/

open List (Perm)

/-!
## Targets
-/

/-- Without repetitions the items stand in the order in which they came first. -/
theorem pairwise_idxOf_eraseDups
    [BEq α]
    [LawfulBEq α]
    (items : List α) :
    items.eraseDups.Pairwise fun first second => items.idxOf first < items.idxOf second := by
  -- A new item comes behind all others, and an old one changes no first occurrence.
  induction items using List.reverseRecOn with
  | nil =>
      exact List.Pairwise.nil
  | append_singleton items item inductionHypothesis =>
      have old {known : α} (member : known ∈ items.eraseDups) :
          (items ++ [item]).idxOf known = items.idxOf known :=
        List.idxOf_append_of_mem (List.mem_eraseDups.mp member)
      have kept :
          items.eraseDups.Pairwise fun first second =>
            (items ++ [item]).idxOf first < (items ++ [item]).idxOf second := by
        refine inductionHypothesis.imp_of_mem fun isFirst isSecond earlier => ?_
        rwa [old isFirst, old isSecond]
      rw [List.eraseDups_append]
      by_cases known : item ∈ items
      · simpa [List.removeAll, known] using kept
      · have alone : [item].removeAll items = [item] := by
          simp [List.removeAll, known]
        rw [alone, List.eraseDups_cons, List.filter_nil, List.eraseDups_nil, List.pairwise_append]
        refine ⟨kept, List.pairwise_singleton _ _, fun first isFirst second isSecond => ?_⟩
        obtain rfl := List.mem_singleton.mp isSecond
        rw [old isFirst, List.idxOf_append_of_notMem known]
        have early := List.idxOf_lt_length_of_mem (List.mem_eraseDups.mp isFirst)
        exact Nat.lt_of_lt_of_le early (Nat.le_add_right _ _)

theorem nodup_eraseDups
    [BEq α]
    [LawfulBEq α]
    (items : List α) :
    items.eraseDups.Nodup :=
  (pairwise_idxOf_eraseDups items).imp fun earlier same => by
    rw [same] at earlier
    exact Nat.lt_irrefl _ earlier

/-- Of lists that share nothing with one another, only one is left of what belongs to its key. -/
theorem flatMap_ite_eq
    {β : Type}
    [DecidableEq α]
    {keys : List α}
    (apart : keys.Nodup)
    (key : α)
    (items : List β) :
    (keys.flatMap fun other => if other = key then items else []) =
      if key ∈ keys then items else [] := by
  induction keys with
  | nil =>
      rfl
  | cons other rest inductionHypothesis =>
      obtain ⟨isNew, restApart⟩ := List.nodup_cons.mp apart
      rw [List.flatMap_cons, inductionHypothesis restApart]
      by_cases same : other = key
      · subst other
        simp [isNew]
      · simp [same, Ne.symm same]

/-- Lists with the same clips of each target, in the same order, have the same clips. -/
theorem perm_of_filter_eq
    {first second : List Clip}
    (same :
      ∀ targetId,
        (first.filter fun clip => clip.targetId == targetId) =
          second.filter fun clip => clip.targetId == targetId) :
    Perm first second := by
  classical
  refine List.perm_iff_count.mpr fun clip => ?_
  have counted (clips : List Clip) :
      (clips.filter fun other => other.targetId == clip.targetId).count clip =
        clips.count clip :=
    List.count_filter (beq_self_eq_true clip.targetId)
  rw [← counted first, ← counted second, same]

namespace Timeline

/-- The targets of the rows. -/
def targets (clips : List Clip) : List Int :=
  (clips.map Clip.targetId).eraseDups

/-- The targets are those of the clips. -/
theorem mem_targets
    {clips : List Clip}
    {targetId : Int} :
    targetId ∈ targets clips ↔ ∃ clip ∈ clips, clip.targetId = targetId := by
  rw [targets, List.mem_eraseDups, List.mem_map]

/-- The clips of one target after another. -/
def arranged (clips : List Clip) : List Clip :=
  (targets clips).flatMap fun targetId => clips.filter fun clip => clip.targetId == targetId

/-- Arranging the clips keeps the order within a target. -/
theorem filter_arranged
    (clips : List Clip)
    (targetId : Int) :
    ((arranged clips).filter fun clip => clip.targetId == targetId) =
      clips.filter fun clip => clip.targetId == targetId := by
  have others (other : Int) :
      ((clips.filter fun clip => clip.targetId == other).filter fun clip =>
          clip.targetId == targetId) =
        if other = targetId then clips.filter fun clip => clip.targetId == targetId else [] := by
    rw [List.filter_filter]
    split
    · next same =>
      subst other
      simp
    · next different =>
      refine List.filter_eq_nil_iff.mpr fun clip _ both => ?_
      obtain ⟨isTarget, isOther⟩ := Bool.and_eq_true_iff.mp both
      exact different ((beq_iff_eq.mp isOther).symm.trans (beq_iff_eq.mp isTarget))
  have apart : (targets clips).Nodup := nodup_eraseDups _
  rw [arranged, List.filter_flatMap]
  simp only [others]
  rw [flatMap_ite_eq apart]
  split
  · rfl
  · next missing =>
    refine (List.filter_eq_nil_iff.mpr fun clip isClip isTarget => missing ?_).symm
    exact mem_targets.mpr ⟨clip, isClip, beq_iff_eq.mp isTarget⟩

/-!
## Editors
-/

variable {timeline : Timeline} {clips : List Clip} {clip : Clip} {id : String}

theorem editor?_of_place?
    {place : Nat}
    (found : timeline.place? id = some place) :
    timeline.editor? id = timeline.editors[place]? := by
  rw [editor?, found]
  rfl

theorem place?_enlist_of_ne
    (other : clip.id ≠ id) :
    (timeline.enlist clip).place? id = timeline.place? id := by
  unfold enlist
  split
  · rfl
  · simp [place?, List.find?_append, other]

/-- A clip that is enlisted gives its record to its editor, or gets a new one. -/
theorem IsExclusive.editor?_enlist
    (exclusive : timeline.IsExclusive) :
    (timeline.enlist clip).editor? clip.id =
      some ((timeline.editor? clip.id).elim (ClipEditor.of clip) (·.refresh clip)) := by
  unfold Timeline.enlist
  split
  · next place found =>
    obtain ⟨editor, isEditor, -⟩ := exclusive.exists_editor (place?_eq_some found)
    have stillFound :
        (timeline.modify place fun editor => editor.refresh clip).place? clip.id = some place :=
      found
    rw [editor?_of_place? found, editor?_of_place? stillFound, isEditor]
    simp [modify, isEditor]
  · next missing =>
    have later := exclusive.addEditor missing
    have placed := later.place?_of_mem (List.mem_append_right _ (List.mem_singleton_self _))
    have none : timeline.editor? clip.id = none := by
      rw [editor?, missing]
      rfl
    rw [editor?_of_place? placed, none]
    exact List.getElem?_concat_length

/-- Other clips keep what they have. -/
theorem IsExclusive.editor?_enlist_of_ne
    (exclusive : timeline.IsExclusive)
    (other : clip.id ≠ id) :
    (timeline.enlist clip).editor? id = timeline.editor? id := by
  have samePlace : (timeline.enlist clip).place? id = timeline.place? id :=
    place?_enlist_of_ne other
  cases placed : timeline.place? id with
  | none =>
      rw [placed] at samePlace
      rw [editor?, editor?, placed, samePlace]
      rfl
  | some place =>
      rw [placed] at samePlace
      rw [editor?_of_place? placed, editor?_of_place? samePlace]
      rcases exclusive.editor_enlist (place?_eq_some samePlace) with ⟨same, -⟩ | ⟨-, -, kept⟩
      · exact absurd same other
      · exact kept

/-- Adding other clips leaves an editor as it is. -/
theorem IsExclusive.editor?_foldl_enlist_of_notMem
    (exclusive : timeline.IsExclusive)
    (missing : id ∉ clips.map Clip.id) :
    (clips.foldl Timeline.enlist timeline).editor? id = timeline.editor? id := by
  induction clips generalizing timeline with
  | nil =>
      rfl
  | cons clip rest inductionHypothesis =>
      rw [List.map_cons, List.mem_cons, not_or] at missing
      rw [List.foldl_cons, inductionHypothesis (exclusive.enlist clip) missing.2]
      exact exclusive.editor?_enlist_of_ne (Ne.symm missing.1)

/-- If no two of the clips have the same identifier, each is enlisted once. -/
theorem IsExclusive.editor?_foldl_enlist
    (exclusive : timeline.IsExclusive)
    (distinct : (clips.map Clip.id).Nodup)
    (member : clip ∈ clips) :
    (clips.foldl Timeline.enlist timeline).editor? clip.id =
      some ((timeline.editor? clip.id).elim (ClipEditor.of clip) (·.refresh clip)) := by
  induction clips generalizing timeline with
  | nil =>
      exact absurd member List.not_mem_nil
  | cons first rest inductionHypothesis =>
      obtain ⟨isNew, restDistinct⟩ := List.nodup_cons.mp distinct
      rw [List.foldl_cons]
      rcases List.mem_cons.mp member with rfl | isRest
      · rw [(exclusive.enlist clip).editor?_foldl_enlist_of_notMem isNew]
        exact exclusive.editor?_enlist
      · have other : first.id ≠ clip.id := fun same =>
          isNew (same ▸ List.mem_map_of_mem isRest)
        rw [inductionHypothesis (exclusive.enlist first) restDistinct isRest,
          exclusive.editor?_enlist_of_ne other]

/-- The editor of a current clip: the one that it had with its present record, or a new one. -/
def currentEditor (timeline : Timeline) (clip : Clip) : ClipEditor :=
  (timeline.editor? clip.id).elim (ClipEditor.of clip) (·.refresh clip)

theorem currentEditor_clip
    (timeline : Timeline)
    (clip : Clip) :
    (timeline.currentEditor clip).clip = clip := by
  unfold currentEditor
  cases timeline.editor? clip.id <;> rfl

/-- A clip that had an editor keeps it in its place. -/
theorem IsExclusive.place?_refresh
    (exclusive : timeline.IsExclusive)
    (member : clip ∈ clips)
    {place : Nat}
    (known : timeline.place? clip.id = some place) :
    (timeline.refresh clips).place? clip.id = some place :=
  (exclusive.refresh clips).place?_of_mem
    (mem_live_refresh (place?_eq_some known) ⟨clip, member, rfl⟩)

theorem editor?_withoutGone
    (member : clip ∈ clips) :
    (timeline.withoutGone clips).editor? clip.id = timeline.editor? clip.id := by
  have samePlace : (timeline.withoutGone clips).place? clip.id = timeline.place? clip.id := by
    unfold place? withoutGone
    rw [List.find?_filter]
    congr 2
    funext entry
    rw [Bool.eq_iff_iff, decide_eq_true_iff]
    refine ⟨fun both => both.2, fun same => ⟨?_, same⟩⟩
    exact List.any_eq_true.mpr ⟨clip, member, beq_iff_eq.mpr (beq_iff_eq.mp same).symm⟩
  rw [editor?, editor?, samePlace]
  rfl

/-- After a refresh the editor of a clip is the one it had, brought up to date, or a new one. -/
theorem IsExclusive.editor?_refresh
    (exclusive : timeline.IsExclusive)
    (distinct : (clips.map Clip.id).Nodup)
    (member : clip ∈ clips) :
    (timeline.refresh clips).editor? clip.id = some (timeline.currentEditor clip) := by
  have withoutGone := (timeline.keepsGrips_withoutGone clips).isExclusive exclusive
  rw [refresh_eq, withoutGone.editor?_foldl_enlist distinct member, editor?_withoutGone member]
  rfl

theorem isSome_place?_of_editor?
    {editor : ClipEditor}
    (found : timeline.editor? id = some editor) :
    ∃ place, (id, place) ∈ timeline.live := by
  obtain ⟨place, placed, -⟩ := Option.bind_eq_some_iff.mp found
  exact ⟨place, place?_eq_some placed⟩

/-- There are editors for the current clips and for no others. -/
theorem IsExclusive.live_refresh
    (exclusive : timeline.IsExclusive)
    (distinct : (clips.map Clip.id).Nodup) :
    Perm ((timeline.refresh clips).live.map Prod.fst) (clips.map Clip.id) := by
  refine (List.perm_ext_iff_of_nodup (exclusive.refresh clips).keyed distinct).mpr fun id => ?_
  constructor
  · intro isLive
    obtain ⟨⟨known, place⟩, member, rfl⟩ := List.mem_map.mp isLive
    obtain ⟨editor, -, latest⟩ := exclusive.editor_refresh member
    obtain ⟨isClip, same⟩ := mem_of_latestClip? latest
    exact List.mem_map.mpr ⟨editor.clip, isClip, same⟩
  · intro isClip
    obtain ⟨clip, member, rfl⟩ := List.mem_map.mp isClip
    obtain ⟨place, isLive⟩ := isSome_place?_of_editor? (exclusive.editor?_refresh distinct member)
    exact List.mem_map.mpr ⟨_, isLive, rfl⟩

/-!
## Rows
-/

/-- After a refresh there is a row for each target, with its clips in their order. -/
theorem IsExclusive.rows_refresh
    (exclusive : timeline.IsExclusive)
    (distinct : (clips.map Clip.id).Nodup) :
    (timeline.refresh clips).rows clips =
      (targets clips).map fun targetId =>
        { targetId
          members :=
            (clips.filter fun clip => clip.targetId == targetId).map timeline.currentEditor } := by
  rw [rows, rowsOf, List.map_map]
  refine List.map_congr_left fun targetId _ => ?_
  refine congrArg (TimelineRow.mk targetId) ?_
  refine List.filterMap_eq_map_iff_forall_eq_some.mpr fun clip member => ?_
  exact exclusive.editor?_refresh distinct (List.mem_filter.mp member).1

/-- The concatenated rows hold the clips one target after another. -/
theorem IsExclusive.flatMap_rows_refresh
    (exclusive : timeline.IsExclusive)
    (distinct : (clips.map Clip.id).Nodup) :
    (((timeline.refresh clips).rows clips).flatMap TimelineRow.members).map ClipEditor.clip =
      arranged clips := by
  have own (clips : List Clip) :
      (clips.map timeline.currentEditor).map ClipEditor.clip = clips := by
    rw [List.map_map]
    exact (List.map_congr_left fun clip _ => timeline.currentEditor_clip clip).trans
      (List.map_id clips)
  rw [exclusive.rows_refresh distinct, List.flatMap_map, List.map_flatMap]
  exact List.flatMap_congr fun targetId _ => own _

/-- What becomes of the editor of a clip when the editors are brought in line. -/
structure Continues (timeline later : Timeline) (clip : Clip) (editor : ClipEditor) : Prop where
  found : later.editor? clip.id = some editor
  record : editor.clip = clip
  known :
    ∀ place before,
      timeline.place? clip.id = some place →
        timeline.editors[place]? = some before →
          later.place? clip.id = some place
            ∧ editor.state = before.state
            ∧ editor.hovered = before.hovered
            ∧ editor.preview? = before.preview?
            ∧ (before.state = .naming → editor.typedName = before.typedName)
  new : timeline.place? clip.id = none → editor = ClipEditor.of clip

/-- The rows show each clip once, in the row of its target. -/
structure RowsShow
    (later : Timeline)
    (clips : List Clip)
    (rows : List (TimelineRow ClipEditor)) : Prop where
  complete :
    ∀ targetId,
      targetId ∈ rows.map TimelineRow.targetId ↔ ∃ clip ∈ clips, clip.targetId = targetId
  distinct : (rows.map TimelineRow.targetId).Nodup
  firstSeen :
    (rows.map TimelineRow.targetId).Pairwise fun first second =>
      (clips.map Clip.targetId).idxOf first < (clips.map Clip.targetId).idxOf second
  members :
    ∀ row ∈ rows,
      row.members.map some =
        (clips.filter fun clip => clip.targetId == row.targetId).map fun clip =>
          later.editor? clip.id
  rearranged : Perm ((rows.flatMap TimelineRow.members).map ClipEditor.clip) clips
  stable :
    ∀ targetId,
      (((rows.flatMap TimelineRow.members).map ClipEditor.clip).filter fun clip =>
          clip.targetId == targetId) =
        clips.filter fun clip => clip.targetId == targetId

/-- Each clip continues in its editor. -/
theorem IsExclusive.continues
    (exclusive : timeline.IsExclusive)
    (distinct : (clips.map Clip.id).Nodup)
    (member : clip ∈ clips) :
    Continues timeline (timeline.refresh clips) clip (timeline.currentEditor clip) where
  found := exclusive.editor?_refresh distinct member
  record := timeline.currentEditor_clip clip
  known place before placed isBefore := by
    have refreshed : timeline.currentEditor clip = before.refresh clip := by
      rw [currentEditor, editor?_of_place? placed, isBefore]
      rfl
    rw [refreshed]
    exact ⟨exclusive.place?_refresh member placed, rfl, rfl, rfl, fun naming => if_pos naming⟩
  new missing := by
    rw [currentEditor, editor?, missing]
    rfl

/-- The rows show the clips. -/
theorem IsExclusive.rowsShow
    (exclusive : timeline.IsExclusive)
    (distinct : (clips.map Clip.id).Nodup) :
    RowsShow (timeline.refresh clips) clips ((timeline.refresh clips).rows clips) := by
  have arranges := exclusive.flatMap_rows_refresh distinct
  have same : ((timeline.refresh clips).rows clips).map TimelineRow.targetId = targets clips := by
    rw [exclusive.rows_refresh distinct, List.map_map]
    exact List.map_id _
  refine ⟨?_, ?_, ?_, ?_, ?_, ?_⟩
  · rw [same]
    exact fun targetId => mem_targets
  · rw [same]
    exact nodup_eraseDups _
  · rw [same]
    exact pairwise_idxOf_eraseDups _
  · rw [exclusive.rows_refresh distinct]
    rintro row isRow
    obtain ⟨targetId, -, rfl⟩ := List.mem_map.mp isRow
    rw [List.map_map]
    refine List.map_congr_left fun clip isClip => ?_
    exact (exclusive.editor?_refresh distinct (List.mem_filter.mp isClip).1).symm
  · rw [arranges]
    exact perm_of_filter_eq (filter_arranged clips)
  · rw [arranges]
    exact filter_arranged clips

/-- The editors are kept by identifier, whatever else is going on. -/
structure IsKeyed (timeline : Timeline) : Prop where
  keyed : (timeline.live.map Prod.fst).Nodup
  named :
    ∀ entry ∈ timeline.live,
      ∃ editor, timeline.editors[entry.2]? = some editor ∧ editor.clip.id = entry.1

theorem IsKeyed.isExclusive
    (keyed : timeline.IsKeyed) :
    IsExclusive { timeline with hub := {} } where
  paired := PointerHub.Reachable.isPaired PointerHub.Leads.refl
  apart := List.nodup_nil
  held := by simp [drags, PointerHub.owners]
  named entry member := by
    obtain ⟨editor, found, same⟩ := keyed.named entry member
    exact ⟨editor.state, by simp [standing?, found, ClipEditor.standing, same]⟩
  keyed := keyed.keyed

/-- Who listens to the pointer is of no concern when the editors are brought in line. -/
theorem refresh_withHub
    (timeline : Timeline)
    (hub : PointerHub ClipDrag)
    (clips : List Clip) :
    refresh { timeline with hub } clips = { timeline.refresh clips with hub } := by
  have enlisted (clips : List Clip) (timeline : Timeline) :
      clips.foldl enlist { timeline with hub } = { clips.foldl enlist timeline with hub } := by
    induction clips generalizing timeline with
    | nil =>
        rfl
    | cons clip rest inductionHypothesis =>
        have first : enlist { timeline with hub } clip = { timeline.enlist clip with hub } := by
          have samePlace :
              place? { timeline with hub } clip.id = timeline.place? clip.id := rfl
          unfold enlist
          rw [samePlace]
          cases timeline.place? clip.id <;> rfl
        rw [List.foldl_cons, List.foldl_cons, first, inductionHypothesis]
  exact enlisted clips (timeline.withoutGone clips)

/--
Editors that are kept by identifier are brought in line with clips that have different identifiers.
Then the clips have their editors and nothing else has one, each editor goes on with what was being
done with it, and the rows are a stable rearrangement of the clips.
-/
theorem rows_follow
    (timeline : Timeline)
    (keyed : timeline.IsKeyed)
    (clips : List Clip)
    (distinct : (clips.map Clip.id).Nodup) :
    Perm ((timeline.refresh clips).live.map Prod.fst) (clips.map Clip.id)
      ∧ (∀ clip ∈ clips, ∃ editor, Continues timeline (timeline.refresh clips) clip editor)
      ∧ RowsShow (timeline.refresh clips) clips ((timeline.refresh clips).rows clips) := by
  -- Without its pointer hub the timeline is exclusive, and the hub is of no concern here.
  have bare := timeline.refresh_withHub {} clips
  have exclusive := keyed.isExclusive
  have live := exclusive.live_refresh distinct
  have continues (clip : Clip) (member : clip ∈ clips) := exclusive.continues distinct member
  have shows := exclusive.rowsShow distinct
  rw [bare] at live shows
  refine ⟨live, fun clip member => ?_, ?_⟩
  · have continued := continues clip member
    rw [bare] at continued
    exact ⟨_, continued.found, continued.record, continued.known, continued.new⟩
  · exact ⟨shows.complete, shows.distinct, shows.firstSeen, shows.members, shows.rearranged,
      shows.stable⟩

/-- A clip that is being renamed comes second, between two new clips of another target. -/
theorem rows_follow_between :
    let clip (id : String) (targetId : Int) : Clip :=
      { id, name := "Move", targetId, kind := "MOVE", startTime := 0, endTime := 2, axis := .null
        value? := none, startPosition? := none, endPosition? := none }
    let timeline :=
      (({} : Timeline).refresh [clip "c1" 0]).modifyClip "c1" fun editor =>
        editor.beginRename.1.typeName "Lift"
    let clips := [clip "c2" 1, clip "c1" 0, clip "c3" 1]
    timeline.IsKeyed
      ∧ (clips.map Clip.id).Nodup
      ∧ (∃ editor,
        (timeline.refresh clips).editor? "c1" = some editor
          ∧ editor.state = .naming
          ∧ editor.typedName = "Lift")
      ∧ RowsShow (timeline.refresh clips) clips ((timeline.refresh clips).rows clips)
      ∧ (((timeline.refresh clips).rows clips).map fun row =>
          (row.targetId, row.members.map fun editor => editor.clip.id)) =
        [(1, ["c2", "c3"]), (0, ["c1"])] := by
  intro clip timeline clips
  have keyed : timeline.IsKeyed := by
    refine ⟨by decide +kernel, fun entry member => ?_⟩
    obtain rfl : entry = ("c1", 0) := by
      simpa using (show entry ∈ [("c1", 0)] from member)
    exact ⟨_, rfl, rfl⟩
  have distinct : (clips.map Clip.id).Nodup := by decide +kernel
  obtain ⟨-, continues, shows⟩ := rows_follow timeline keyed clips distinct
  obtain ⟨editor, continued⟩ := continues (clip "c1" 0) (by simp [clips])
  obtain ⟨-, state, -, -, typed⟩ := continued.known 0 _ rfl rfl
  exact ⟨keyed, distinct, ⟨editor, continued.found, state, typed rfl⟩, shows, by decide +kernel⟩

end Timeline

end SceneEditor
