import SceneEditor.Proofs.Session.Dragging
import SceneEditor.Proofs.Timeline.Clamping

namespace SceneEditor

open Attempt

/-!
# Clamped clips

Whatever was done before a move of the pointer, each update that the move sends is for a clip that was
pressed on, and its times are clamped against those that the clip had then.
-/

/-- The numbers that the action gives are finite floating-point numbers. -/
def Session.Action.HasFinitePositions (action : Session.Action) : Prop :=
  ∀ number ∈ action.positions, ∃ real : Binary64, number = .real real ∧ real.isFinite = true

/-- An update gives a clip, whose times are moderate, times that are clamped. -/
structure Clip.ClampedBy
    (clip : Clip)
    (settings : TimelineSettings)
    (grip : Grip)
    (area : Num)
    (startTime endTime : Binary64) : Prop where
  isNumber : startTime.isNan = false ∧ endTime.isNan = false
  clamps :
    grip.Clamps settings clip.span { start := .real startTime, stop := .real endTime }
  unmoved :
    ∀ trackWidth,
      Track.width area settings.gutter = .ok trackWidth → trackWidth.le 0 = true →
        grip.move settings clip.span (.real 0) =
          .ok { start := .real startTime, stop := .real endTime }

namespace Grip

/-- What a grip makes of finite times and positions is clamped. -/
theorem timesAt_clampedBy
    {settings : TimelineSettings}
    (passes : settings.Passes)
    (grip : Grip)
    {clip : Clip}
    (ofStart : clip.startTime.IsModerate)
    (ofStop : clip.endTime.IsModerate)
    {down area x : Binary64}
    (ofDown : down.isFinite = true)
    (ofArea : area.isFinite = true)
    (ofX : x.isFinite = true) :
    ∃ startTime endTime,
      grip.timesAt settings clip.span (.real down) (.real area) (.real x) =
          .ok { start := .real startTime, stop := .real endTime } ∧
        clip.ClampedBy settings grip (.real area) startTime endTime := by
  obtain ⟨startTime, endTime, times, startIsNumber, stopIsNumber, clamps⟩ :=
    grip.timesAt_clamps passes ofStart.isFinite ofStop.isFinite (fun _ => ofStart.sub_isFinite ofStop)
      ofDown ofArea ofX
  refine ⟨startTime, endTime, times, ⟨startIsNumber, stopIsNumber⟩, clamps, ?_⟩
  intro trackWidth measured none
  have isDistance : (Num.real x).sub (.real down) = .ok (.real (x.sub down)) := rfl
  have isDelta : Track.seconds (.real (x.sub down)) trackWidth settings.maxTime = .ok (.real 0) :=
    if_pos none
  rw [Grip.timesAt, measured, isDistance] at times
  simp only [ok_bind, isDelta] at times
  exact times

end Grip

namespace Session

open Timeline

/-- An update that a move sends belongs to a drag that listens. -/
theorem exists_gesture_of_answer
    {timeline : Timeline}
    {x : Num}
    {drag : ClipDrag}
    {command : Command}
    (answered : (drag, command) ∈ timeline.answers x) :
    ∃ gesture ∈ timeline.hub.listening, ∃ editor span startTime endTime,
      drag = gesture.owner ∧
        timeline.editors[gesture.owner.editor]? = some editor ∧
        gesture.spanAt timeline.settings x = .ok span ∧
        span.start.toReal = .ok startTime ∧ span.stop.toReal = .ok endTime ∧
        command = editor.update startTime endTime := by
  obtain ⟨gesture, listens, answer⟩ := List.mem_filterMap.mp answered
  have isDrag := Gesture.fst_of_answer? answer
  obtain ⟨editor, found, answer⟩ := Option.bind_eq_some_iff.mp answer
  obtain ⟨⟨changed, sent⟩, previews, same⟩ := Option.bind_eq_some_iff.mp answer
  obtain ⟨-, rfl⟩ := Prod.mk.inj (Option.some.inj same)
  obtain ⟨span, startTime, endTime, spans, starts, stops, -, update⟩ :=
    Gesture.answer_eq_ok_iff.mp (eq_ok_of_toOption previews)
  exact ⟨gesture, listens, editor, span, startTime, endTime, isDrag, found, spans, starts, stops,
    update⟩

section

variable (answer? : Option Bool) {settings : TimelineSettings} {actions : List Action}

/-- No move of the pointer fails after presses with finite positions, and its updates are sent. -/
theorem pointerMove_sends
    (passes : settings.Passes)
    (positions : ∀ action ∈ actions, action.HasFinitePositions)
    (x : Binary64) :
    let session := (fresh answer? settings).run actions
    let moved := session.pointerMove (.real x)
    moved.result = .ok () ∧
      moved.effects = sent ((session.timeline.answers (.real x)).map Prod.snd) := by
  intro session moved
  have exclusive : session.timeline.IsExclusive :=
    isExclusive_run (isExclusive_new settings) actions
  have isSettings : session.timeline.settings = settings :=
    settings_run (fresh answer? settings) actions
  have succeeds : moved.result = .ok () := by
    have computable : session.timeline.IsComputable settings := by
      refine isComputable_run (isExclusive_new settings) (isComputable_new settings) ?_
      intro action member number isPosition
      obtain ⟨real, rfl, -⟩ := positions action member number isPosition
      exact trivial
    have ofMove : (Num.real x).IsPosition := trivial
    rw [← isSettings] at computable
    exact pointerMove_result computable (isSettings ▸ passes.isComputable) ofMove
  have published := (exclusive.pointerMove_answers (silent_of_result succeeds)).1
  exact ⟨succeeds, congrArg Session.sent published⟩

/-- An update that a move sends is for a clip that was pressed on, whose times are those of the drag. -/
theorem exists_press_of_answer
    {x : Num}
    {drag : ClipDrag}
    {command : Command}
    (answered : (drag, command) ∈ ((fresh answer? settings).run actions).timeline.answers x) :
    ∃ before since id down area clip name span startTime endTime,
      actions = before ++ .onClip id (.beginDrag drag.grip down area) :: since ∧
        latestClip? ((fresh answer? settings).run before).world.clips id = some clip ∧
        drag.grip.timesAt settings clip.span down area x = .ok span ∧
        span.start.toReal = .ok startTime ∧ span.stop.toReal = .ok endTime ∧
        command = .updateClip id name startTime endTime := by
  have isSettings : ((fresh answer? settings).run actions).timeline.settings = settings :=
    settings_run (fresh answer? settings) actions
  obtain ⟨gesture, listens, editor, span, startTime, endTime, rfl, found, spans, starts, stops, rfl⟩ :=
    exists_gesture_of_answer answered
  rcases listening_run (isExclusive_new settings) listens with
    never | ⟨before, action, since, id, clip, down, area, rfl, began, isOwner⟩
  · exact absurd never List.not_mem_nil
  have isPress := began.isPress
  subst isPress
  have ofEditor : editor.clip.id = id := by
    rw [owners, List.getElem?_map, found] at isOwner
    exact Option.some.inj isOwner
  have startSettings : ((fresh answer? settings).run before).timeline.settings = settings :=
    settings_run (fresh answer? settings) before
  have notes := startSettings ▸ began.notes
  rw [isSettings, notes.spanAt_eq] at spans
  exact ⟨before, since, id, down, area, clip, editor.typedName, span, startTime, endTime, rfl,
    began.latest, spans, starts, stops, by rw [ClipEditor.update, ofEditor]⟩

end

/--
In a run whose presses have finite positions no move of the pointer fails.  Each update that it sends is
for a clip that was pressed on, and its times are clamped against those that the clip had then.
-/
theorem run_clampsClips
    (answer? : Option Bool)
    {settings : TimelineSettings}
    (accepted : settings.check = .ok settings)
    {actions : List Action}
    (positions : ∀ action ∈ actions, action.HasFinitePositions)
    {x : Binary64}
    (ofX : x.isFinite = true) :
    let session := (fresh answer? settings).run actions
    let moved := session.pointerMove (.real x)
    moved.result = .ok () ∧
      moved.effects = sent ((session.timeline.answers (.real x)).map Prod.snd) ∧
      ∀ drag command,
        (drag, command) ∈ session.timeline.answers (.real x) →
          ∃ before since id down area clip name startTime endTime,
            actions = before ++ .onClip id (.beginDrag drag.grip down area) :: since ∧
              latestClip? ((fresh answer? settings).run before).world.clips id = some clip ∧
              command = .updateClip id name startTime endTime ∧
              (clip.startTime.IsModerate → clip.endTime.IsModerate →
                clip.ClampedBy settings drag.grip area startTime endTime) := by
  intro session moved
  have passes : settings.Passes := (TimelineSettings.passes_of_check accepted).2
  obtain ⟨succeeds, sends⟩ := pointerMove_sends answer? passes positions x
  refine ⟨succeeds, sends, ?_⟩
  intro drag command answered
  obtain ⟨before, since, id, down, area, clip, name, span, startTime, endTime, rfl, latest, times,
    starts, stops, rfl⟩ := exists_press_of_answer answer? answered
  refine ⟨before, since, id, down, area, clip, name, startTime, endTime, rfl, latest, rfl, ?_⟩
  intro ofStart ofStop
  have arePositions := positions _ (List.mem_append_right before List.mem_cons_self)
  obtain ⟨down, rfl, ofDown⟩ := arePositions down List.mem_cons_self
  obtain ⟨area, rfl, ofArea⟩ := arePositions area (List.mem_cons_of_mem _ List.mem_cons_self)
  obtain ⟨newStart, newStop, newTimes, clamped⟩ :=
    drag.grip.timesAt_clampedBy passes ofStart ofStop ofDown ofArea ofX
  obtain rfl := Except.ok.inj (times.symm.trans newTimes)
  obtain rfl := Except.ok.inj starts
  obtain rfl := Except.ok.inj stops
  exact clamped

/-- In a run of two actions, of which the first is a message, the press is the second. -/
theorem eq_of_press
    {message : Message}
    {known id : String}
    {grip grip' : Grip}
    {down down' area area' : Num}
    {before since : List Action}
    (split :
      [.receive message, .onClip known (.beginDrag grip down area)] =
        before ++ .onClip id (.beginDrag grip' down' area') :: since) :
    before = [.receive message] ∧ id = known ∧ down' = down ∧ area' = area := by
  rcases before with _ | ⟨first, _ | ⟨second, rest⟩⟩
  · simp at split
  · simp only [List.cons_append, List.nil_append, List.cons.injEq, Action.onClip.injEq,
      ClipAction.beginDrag.injEq] at split
    obtain ⟨rfl, ⟨rfl, -, rfl, rfl⟩, -⟩ := split
    exact ⟨rfl, rfl, rfl, rfl⟩
  · simp at split

/-- Only the press of such a run gives numbers. -/
theorem hasFinitePositions_press
    {message : Message}
    {known : String}
    {grip : Grip}
    {down area : Binary64}
    (ofDown : down.isFinite = true)
    (ofArea : area.isFinite = true) :
    ∀ action ∈ [Action.receive message, .onClip known (.beginDrag grip (.real down) (.real area))],
      action.HasFinitePositions := by
  intro action member number isPosition
  simp only [List.mem_cons, List.not_mem_nil, or_false] at member
  rcases member with rfl | rfl
  · exact absurd isPosition List.not_mem_nil
  · simp only [Action.positions, List.mem_cons, List.not_mem_nil, or_false] at isPosition
    rcases isPosition with rfl | rfl
    · exact ⟨down, rfl, ofDown⟩
    · exact ⟨area, rfl, ofArea⟩

/-- A clip is pulled far beyond its end by its left edge, and starts as late as it may. -/
theorem run_clampsClips_far :
    let clip : Message :=
      .text ("\x7b\"clips\": [\x7b\"id\": \"c1\", \"targetId\": 0, " ++
        "\"startTime\": 2, \"endTime\": 4\x7d]\x7d")
    let actions : List Action :=
      [.receive clip, .onClip "c1" (.beginDrag .leftEdge (.real 0) (.real 665))]
    let session := (fresh none {}).run actions
    ({} : TimelineSettings).check = .ok {} ∧
      (∀ action ∈ actions, action.HasFinitePositions) ∧
      (1000 : Binary64).isFinite = true ∧
      (session.pointerMove (.real 1000)).result = .ok () ∧
      ∃ clip : Clip,
        clip.startTime = 2 ∧ clip.endTime = 4 ∧
          clip.ClampedBy {} .leftEdge (.real 665) (Binary64.ofDecimal false 39 (-1)) 4 := by
  intro message actions session
  have accepted : ({} : TimelineSettings).check = .ok {} := by
    decide +kernel
  have positions : ∀ action ∈ actions, action.HasFinitePositions :=
    hasFinitePositions_press (by decide +kernel) (by decide +kernel)
  have finite : (1000 : Binary64).isFinite = true := by
    decide +kernel
  obtain ⟨succeeds, -, clamped⟩ := run_clampsClips none accepted positions finite
  have answered : session.timeline.answers (.real 1000) =
      [({ editor := 0, grip := .leftEdge, origin := { start := .real 2, stop := .real 4 } },
        .updateClip "c1" "Move p0" (Binary64.ofDecimal false 39 (-1)) 4)] := by
    decide +kernel
  obtain ⟨before, since, id, down, area, clip, name, startTime, endTime, split, latest, command,
    keeps⟩ := clamped _ _ (answered ▸ List.mem_singleton_self _)
  obtain ⟨rfl, rfl, -, rfl⟩ := eq_of_press split
  have times : (latestClip? ((fresh none {}).run [.receive message]).world.clips "c1").map
      (fun clip => (clip.startTime, clip.endTime)) = some (2, 4) := by
    decide +kernel
  rw [latest, Option.map_some, Option.some.injEq, Prod.mk.injEq] at times
  obtain ⟨ofStart, ofEnd⟩ := times
  obtain ⟨-, -, rfl, rfl⟩ := Command.updateClip.inj command
  refine ⟨accepted, positions, finite, succeeds, clip, ofStart, ofEnd, keeps ?_ ?_⟩
  · rw [ofStart]
    exact ⟨by decide +kernel, by decide +kernel⟩
  · rw [ofEnd]
    exact ⟨by decide +kernel, by decide +kernel⟩

end Session

end SceneEditor
