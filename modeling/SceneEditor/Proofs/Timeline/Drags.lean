import Mathlib.Data.List.Nodup
import SceneEditor.Proofs.Timeline.PointerHub
import SceneEditor.Timeline.Basic

namespace SceneEditor

/-!
# Drags and the editors that they hold

A drag holds the editor that it began on.  An editor that is held can be neither renamed nor dragged
again, so every editor is held by one drag at most, and the editor of a clip is held by the only
drag of this clip, or the clip is being renamed, or neither.

An editor goes when its clip does, and the drag that holds it does not hear of this.  Such a drag is
stray: it sends times for its clip until the pointer is released, whatever is done with the
clip when it is back.
-/

/-- Whose clip an editor is of, and what is being done with it. -/
def ClipEditor.standing (editor : ClipEditor) : String × ClipState :=
  (editor.clip.id, editor.state)

/-- The command gives times to the clip of an identifier. -/
def Command.updates (id : String) : Command → Bool
  | .updateClip known _ _ _ => known == id
  | _ => false

namespace PointerHub

/-- The gestures that listen to moves. -/
def listening (hub : PointerHub β) : List (Gesture β) :=
  hub.moveListeners.filterMap fun place => hub.gestures[place]?

/-- The owners of the gestures that listen to moves. -/
def owners (hub : PointerHub β) : List β :=
  hub.moveListeners.filterMap fun place => (hub.gestures[place]?).map Gesture.owner

/-- The owners are those of the gestures that listen. -/
theorem owners_eq (hub : PointerHub β) :
    hub.owners = hub.listening.map Gesture.owner :=
  List.map_filterMap.symm

/-- A gesture that is made and started comes behind the others. -/
theorem listening_start_make
    {hub : PointerHub β}
    (paired : hub.IsPaired)
    (gesture : Gesture β) :
    ((hub.make gesture).start hub.gestures.length).listening =
      hub.listening ++ [{ gesture with active := true }] := by
  have old :
      ∀ place ∈ hub.moveListeners,
        (((hub.make gesture).start hub.gestures.length).gestures)[place]? =
          hub.gestures[place]? := by
    intro place listens
    have small : place < hub.gestures.length := paired.made place (paired.same ▸ listens)
    simp [start, mark, make, List.getElem?_append_left small, Nat.ne_of_gt small]
  have new :
      (((hub.make gesture).start hub.gestures.length).gestures)[hub.gestures.length]? =
        some { gesture with active := true } := by
    simp [start, mark, make]
  change (hub.moveListeners ++ [hub.gestures.length]).filterMap _ = _
  rw [List.filterMap_append, List.filterMap_congr old, List.filterMap_cons, new]
  rfl

/-- A gesture that is made and started adds its owner. -/
theorem owners_start_make
    {hub : PointerHub β}
    (paired : hub.IsPaired)
    (gesture : Gesture β) :
    ((hub.make gesture).start hub.gestures.length).owners = hub.owners ++ [gesture.owner] := by
  rw [owners_eq, owners_eq, listening_start_make paired, List.map_append]
  rfl

/-- Without a listener there are no owners. -/
theorem owners_of_silent
    {hub : PointerHub β}
    (silent : hub.moveListeners = []) :
    hub.owners = [] := by
  rw [owners, silent]
  rfl

end PointerHub

namespace Timeline

/-- What the editor at a place stands for. -/
def standing? (timeline : Timeline) (place : Nat) : Option (String × ClipState) :=
  (timeline.editors[place]?).map ClipEditor.standing

/-- The drags that the gestures of the hub belong to. -/
def drags (timeline : Timeline) : List ClipDrag :=
  timeline.hub.owners

/-- The drag holds an editor of the clip. -/
def dragsClip (timeline : Timeline) (id : String) (drag : ClipDrag) : Bool :=
  (timeline.standing? drag.editor).any fun (known, _) => known == id

/-- The editor at a place is the one of a current clip. -/
def isLive (timeline : Timeline) (place : Nat) : Bool :=
  timeline.live.any fun (_, known) => known == place

/-- The drags whose editors have gone with their clips. -/
def strays (timeline : Timeline) : List ClipDrag :=
  timeline.drags.filter fun drag => !timeline.isLive drag.editor

/-- The clip of an id is being renamed. -/
def isNaming (timeline : Timeline) (id : String) : Bool :=
  (timeline.editor? id).any fun editor => editor.state = .naming

/-- How many drags and renamings of a clip are in progress. -/
def interactions (timeline : Timeline) (id : String) : Nat :=
  timeline.drags.countP (timeline.dragsClip id) + (timeline.isNaming id).toNat

/-!
## Editors that are held
-/

/-- Every drag holds an editor of its own, and the editors of the current clips are kept by clip. -/
structure IsExclusive (timeline : Timeline) : Prop where
  paired : timeline.hub.IsPaired
  apart : (timeline.drags.map ClipDrag.editor).Nodup
  held :
    ∀ drag ∈ timeline.drags,
      ∃ id, timeline.standing? drag.editor = some (id, .gripped drag.grip)
  named :
    ∀ entry ∈ timeline.live, ∃ state, timeline.standing? entry.2 = some (entry.1, state)
  keyed : (timeline.live.map Prod.fst).Nodup

/-- A new timeline is exclusive. -/
theorem isExclusive_new (settings : TimelineSettings) :
    IsExclusive { settings } where
  paired := PointerHub.Reachable.isPaired PointerHub.Leads.refl
  apart := List.nodup_nil
  held := by simp [drags, PointerHub.owners]
  named := by simp
  keyed := List.nodup_nil

theorem place?_eq_some
    {timeline : Timeline}
    {id : String}
    {place : Nat}
    (found : timeline.place? id = some place) :
    (id, place) ∈ timeline.live := by
  obtain ⟨⟨known, other⟩, isFound, rfl⟩ := Option.map_eq_some_iff.mp found
  have same : known = id := by
    simpa using List.find?_some isFound
  rw [← same]
  exact List.mem_of_find?_eq_some isFound

/-- The place of a clip is found by its identifier. -/
theorem IsExclusive.place?_of_mem
    {timeline : Timeline}
    (exclusive : timeline.IsExclusive)
    {id : String}
    {place : Nat}
    (member : (id, place) ∈ timeline.live) :
    timeline.place? id = some place := by
  have apart : timeline.live.Pairwise fun first second => first.1 ≠ second.1 :=
    List.pairwise_map.mp exclusive.keyed
  rw [place?]
  generalize timeline.live = live at member apart
  induction live with
  | nil =>
      exact absurd member List.not_mem_nil
  | cons entry rest inductionHypothesis =>
      obtain ⟨differs, restApart⟩ := List.pairwise_cons.mp apart
      rcases List.mem_cons.mp member with rfl | isRest
      · simp
      · have different : entry.1 ≠ id := differs _ isRest
        simp only [List.find?_cons, beq_eq_false_iff_ne.mpr different]
        exact inductionHypothesis isRest restApart

/-- A drag that is not stray holds the editor that its clip has now. -/
theorem IsExclusive.place?_of_isLive
    {timeline : Timeline}
    (exclusive : timeline.IsExclusive)
    {id : String}
    {drag : ClipDrag}
    (ofClip : timeline.dragsClip id drag = true)
    (live : timeline.isLive drag.editor = true) :
    timeline.place? id = some drag.editor := by
  obtain ⟨⟨known, place⟩, member, same⟩ := List.any_eq_true.mp live
  obtain rfl : place = drag.editor := by
    simpa using same
  obtain ⟨state, standing⟩ := exclusive.named _ member
  rw [dragsClip, standing, Option.any_some, beq_iff_eq] at ofClip
  rw [← ofClip]
  exact exclusive.place?_of_mem member

/-- Of the drags of a clip at most one is not stray, and then the clip is not being renamed. -/
theorem IsExclusive.interactions_le
    {timeline : Timeline}
    (exclusive : timeline.IsExclusive)
    (id : String) :
    timeline.interactions id ≤ 1 + timeline.strays.countP (timeline.dragsClip id) := by
  have split :
      timeline.drags.countP (timeline.dragsClip id) =
        (timeline.drags.filter fun drag => timeline.isLive drag.editor).countP
            (timeline.dragsClip id) +
          timeline.strays.countP (timeline.dragsClip id) := by
    simpa [strays] using List.countP_eq_countP_filter_add timeline.drags
      (timeline.dragsClip id) fun drag => timeline.isLive drag.editor
  have current :
      (timeline.drags.filter fun drag => timeline.isLive drag.editor).countP
          (timeline.dragsClip id) + (timeline.isNaming id).toNat ≤ 1 := by
    rw [List.countP_filter]
    cases place : timeline.place? id with
    | none =>
        have noDrag :
            timeline.drags.countP
              (fun drag => timeline.dragsClip id drag && timeline.isLive drag.editor) = 0 := by
          rw [List.countP_eq_zero]
          intro drag member ofClip
          obtain ⟨ofClip, live⟩ := (Bool.and_eq_true _ _).mp ofClip
          rw [exclusive.place?_of_isLive ofClip live] at place
          exact absurd place (by simp)
        have noName : timeline.isNaming id = false := by
          simp [isNaming, editor?, place]
        rw [noDrag, noName]
        exact Nat.zero_le 1
    | some place' =>
        have holders :
            timeline.drags.countP
                (fun drag => timeline.dragsClip id drag && timeline.isLive drag.editor) ≤
              (timeline.drags.map ClipDrag.editor).count place' := by
          rw [List.count_eq_countP, List.countP_map]
          apply List.countP_mono_left
          intro drag member ofClip
          obtain ⟨ofClip, live⟩ := (Bool.and_eq_true _ _).mp ofClip
          have found := exclusive.place?_of_isLive ofClip live
          rw [place] at found
          simp [Option.some.inj found]
        have once := List.nodup_iff_count_le_one.mp exclusive.apart place'
        cases naming : timeline.isNaming id with
        | false =>
            exact Nat.le_trans holders once
        | true =>
            have free : (timeline.drags.map ClipDrag.editor).count place' = 0 := by
              rw [List.count_eq_zero]
              intro isHeld
              obtain ⟨drag, member, rfl⟩ := List.mem_map.mp isHeld
              obtain ⟨known, standing⟩ := exclusive.held drag member
              obtain ⟨editor, found, isStanding⟩ := Option.map_eq_some_iff.mp standing
              have gripped : editor.state = .gripped drag.grip :=
                (Prod.mk.inj isStanding).2
              simp [isNaming, editor?, place, found, gripped] at naming
            rw [free] at holders
            rw [Nat.le_zero.mp holders]
            exact Nat.le_refl 1
  rw [interactions, split]
  omega

end Timeline

end SceneEditor
