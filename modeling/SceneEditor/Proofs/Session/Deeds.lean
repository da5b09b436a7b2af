import SceneEditor.Proofs.Session.Dragging
import SceneEditor.Proofs.Timeline.Sparing

namespace SceneEditor.Session

open Timeline

/-!
# Editors that are used as they are

Who has the editor of a clip at hand may use it again without bringing the editors in line first, and
then it may be of an older record than the world has.  What holds of the editors in all runs
of actions holds in such runs too.
-/

/-- An action, or something that is done with the editor of a clip as it is. -/
inductive Deed where
  | act (action : Action)
  | asIs (id : String) (action : ClipAction)
  deriving Repr

/-- What is done with the editor of a clip. -/
def Deed.onClip? (id : String) : Deed → Option ClipAction
  | .act (.onClip known action) | .asIs known action => if known = id then some action else none
  | .act _ => none

/-- The editors are brought up to date before the deed. -/
def Deed.refreshes : Deed → Bool
  | .act action => action.refreshes
  | .asIs .. => false

/-- The session after one deed. -/
def doing (session : Session) : Deed → Session
  | .act action => session.after action
  | .asIs id action => (session.performOnClip id action).session

/-- The session behind one deed after another. -/
def through (session : Session) (deeds : List Deed) : Session :=
  deeds.foldl doing session

theorem through_append
    (session : Session)
    (first later : List Deed) :
    session.through (first ++ later) = (session.through first).through later :=
  List.foldl_append

/-!
## The editors stay exclusive
-/

theorem isExclusive_doing
    {session : Session}
    (exclusive : session.timeline.IsExclusive)
    (deed : Deed) :
    (session.doing deed).timeline.IsExclusive := by
  cases deed with
  | act action =>
      exact isExclusive_after exclusive action
  | asIs id action =>
      exact (session.staysSafe_performOnClip id action).exclusive exclusive

/-- Any deeds keep the timeline exclusive. -/
theorem isExclusive_through
    {session : Session}
    (exclusive : session.timeline.IsExclusive)
    (deeds : List Deed) :
    (session.through deeds).timeline.IsExclusive := by
  induction deeds generalizing session with
  | nil =>
      exact exclusive
  | cons deed rest inductionHypothesis =>
      exact inductionHypothesis (isExclusive_doing exclusive deed)

/-!
## Editors that no drag holds show their records
-/

/-- What is done to one clip keeps the timeline plain. -/
theorem ClipStep.isPlain
    {timeline later : Timeline}
    {id : String}
    {action : ClipAction}
    (step : ClipStep timeline id action later)
    (plain : timeline.IsPlain) :
    later.IsPlain := by
  cases step with
  | same =>
      exact plain
  | changed keeps shown =>
      exact plain.modifyClip id fun editor isPlain =>
        (keeps editor).isPlain (congrArg Prod.snd (shown editor)) isPlain
  | dragged =>
      exact (timeline.begins_beginDrag id _ _ _).isPlain plain

theorem isPlain_after
    {session : Session}
    (exclusive : session.timeline.IsExclusive)
    (plain : session.timeline.IsPlain)
    (action : Action) :
    (session.after action).timeline.IsPlain := by
  cases touches : action.touchesTimeline with
  | false =>
      rw [session.timeline_after touches]
      exact plain
  | true =>
      cases action with
      | refresh =>
          exact plain.refresh session.world.clips
      | onClip known action =>
          exact (session.refresh.clipStep_performOnClip known action).isPlain
            (plain.refresh session.world.clips)
      | pointerMove x =>
          exact plain.pointerMove exclusive x
      | pointerUp =>
          exact plain.pointerUp exclusive
      | _ =>
          exact absurd touches (by simp [Action.touchesTimeline])

theorem isPlain_doing
    {session : Session}
    (exclusive : session.timeline.IsExclusive)
    (plain : session.timeline.IsPlain)
    (deed : Deed) :
    (session.doing deed).timeline.IsPlain := by
  cases deed with
  | act action =>
      exact isPlain_after exclusive plain action
  | asIs id action =>
      exact (session.clipStep_performOnClip id action).isPlain plain

/-- Any deeds keep the timeline plain. -/
theorem isPlain_through
    {session : Session}
    (exclusive : session.timeline.IsExclusive)
    (plain : session.timeline.IsPlain)
    (deeds : List Deed) :
    (session.through deeds).timeline.IsPlain := by
  induction deeds generalizing session with
  | nil =>
      exact plain
  | cons deed rest inductionHypothesis =>
      exact inductionHypothesis (isExclusive_doing exclusive deed)
        (isPlain_doing exclusive plain deed)

/-!
## The record that an editor has
-/

/-- The clips with which the editors were brought in line last. -/
def clipsSeen (session : Session) (clips : List Clip) : List Deed → List Clip
  | [] => clips
  | deed :: rest =>
      (session.doing deed).clipsSeen (if deed.refreshes then session.world.clips else clips) rest

theorem isInLine_doing
    {session : Session}
    (exclusive : session.timeline.IsExclusive)
    {clips : List Clip}
    (inLine : session.timeline.IsInLine clips)
    (deed : Deed) :
    (session.doing deed).timeline.IsInLine
      (if deed.refreshes then session.world.clips else clips) := by
  cases deed with
  | act action =>
      exact isInLine_after exclusive inLine action
  | asIs id action =>
      have step := session.clipStep_performOnClip id action
      exact isInLine_of_clips step.live step.clips inLine

/-- The editors are in line with the clips that were seen last. -/
theorem isInLine_through
    {session : Session}
    (exclusive : session.timeline.IsExclusive)
    {clips : List Clip}
    (inLine : session.timeline.IsInLine clips)
    (deeds : List Deed) :
    (session.through deeds).timeline.IsInLine (session.clipsSeen clips deeds) := by
  induction deeds generalizing session clips with
  | nil =>
      exact inLine
  | cons deed rest inductionHypothesis =>
      exact inductionHypothesis (isExclusive_doing exclusive deed)
        (isInLine_doing exclusive inLine deed)

end SceneEditor.Session
