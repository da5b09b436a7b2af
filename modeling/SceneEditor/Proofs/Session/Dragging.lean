import SceneEditor.Proofs.Session.Presses
import SceneEditor.Proofs.Timeline.Arithmetic

namespace SceneEditor

/-!
# Drags in a session

From the moment a drag begins until the pointer is released, and as long as its clip is there whenever
the editors are brought in line, the drag goes on with the same editor and with what it noted at
its beginning.  So each move sends the times that belong to the place of the pointer, whatever
was moved, received and shown in between.
-/

namespace Timeline

/-- The editor of the clip is held by the drag. -/
structure IsDragged (timeline : Timeline) (id : String) (gesture : Gesture ClipDrag) : Prop where
  exclusive : timeline.IsExclusive
  listens : gesture ∈ timeline.hub.listening
  isLive : (id, gesture.owner.editor) ∈ timeline.live

/-- Every drag noted real times and positions, so that its times can be computed. -/
def IsComputable (timeline : Timeline) (settings : TimelineSettings) : Prop :=
  ∀ gesture ∈ timeline.hub.listening,
    ∃ grip start stop down area,
      gesture.Notes settings grip { start := .real start, stop := .real stop } down area ∧
        down.IsPosition ∧ area.IsPosition

/-- The editors of a clip show its last record among the clips. -/
def IsInLine (timeline : Timeline) (clips : List Clip) : Prop :=
  ∀ id place, (id, place) ∈ timeline.live →
    ∃ editor, timeline.editors[place]? = some editor ∧ latestClip? clips id = some editor.clip

/-- A new timeline computes with its settings. -/
theorem isComputable_new (settings : TimelineSettings) :
    IsComputable { settings } settings :=
  fun _ listens => absurd listens List.not_mem_nil

theorem isInLine_new (settings : TimelineSettings) :
    IsInLine { settings } [] :=
  fun _ _ member => absurd member List.not_mem_nil

end Timeline

namespace Session

open Timeline

/-!
## Actions while a clip is dragged
-/

/-- The drag goes on: the pointer is not released, and the clip is there if the editors are
brought in line. -/
def keepsHold (session : Session) (id : String) : Action → Bool
  | .pointerUp => false
  | action => !action.refreshes || session.world.clips.any fun clip => clip.id == id

/-- The drag goes on during the actions. -/
def holds (session : Session) (id : String) : List Action → Bool
  | [] => true
  | action :: rest => session.keepsHold id action && (session.after action).holds id rest

/-- A refresh that keeps the clip keeps the drag. -/
theorem refresh_isDragged
    {session : Session}
    {id : String}
    {gesture : Gesture ClipDrag}
    (dragged : session.timeline.IsDragged id gesture)
    (present : (session.world.clips.any fun clip => clip.id == id) = true) :
    session.refresh.timeline.IsDragged id gesture := by
  obtain ⟨clip, isClip, same⟩ := List.any_eq_true.mp present
  constructor
  · exact dragged.exclusive.refresh session.world.clips
  · change gesture ∈ (session.timeline.refresh _).hub.listening
    rw [refresh_hub]
    exact dragged.listens
  · exact mem_live_refresh dragged.isLive ⟨clip, isClip, beq_iff_eq.mp same⟩

/-- An action that keeps hold of the clip keeps the drag. -/
theorem isDragged_after
    {session : Session}
    {id : String}
    {gesture : Gesture ClipDrag}
    (dragged : session.timeline.IsDragged id gesture)
    {action : Action}
    (keeps : session.keepsHold id action = true) :
    (session.after action).timeline.IsDragged id gesture := by
  cases touches : action.touchesTimeline with
  | false =>
      rw [session.timeline_after touches]
      exact dragged
  | true =>
      cases action with
      | refresh =>
          exact refresh_isDragged dragged keeps
      | onClip known action =>
          have refreshed := refresh_isDragged dragged keeps
          have step := session.refresh.clipStep_performOnClip known action
          refine ⟨step.staysSafe.exclusive refreshed.exclusive, ?_, ?_⟩
          · change _ ∈ (session.refresh.performOnClip known action).session.timeline.hub.listening
            rcases step.listening refreshed.exclusive with same | ⟨_, _, _, _, _, _, _, more⟩
            · rw [same]
              exact refreshed.listens
            · rw [more]
              exact List.mem_append_left _ refreshed.listens
          · exact step.live ▸ refreshed.isLive
      | pointerMove x =>
          exact ⟨isExclusive_after dragged.exclusive (.pointerMove x), dragged.listens,
            dragged.isLive⟩
      | pointerUp =>
          exact absurd keeps Bool.false_ne_true
      | _ =>
          exact absurd touches (by simp [Action.touchesTimeline])

/-- The drag goes on as long as hold of the clip is kept. -/
theorem isDragged_run
    {session : Session}
    {id : String}
    {gesture : Gesture ClipDrag}
    (dragged : session.timeline.IsDragged id gesture)
    {actions : List Action}
    (keeps : session.holds id actions = true) :
    (session.run actions).timeline.IsDragged id gesture := by
  induction actions generalizing session with
  | nil =>
      exact dragged
  | cons action rest inductionHypothesis =>
      obtain ⟨keepsFirst, keepsRest⟩ := (Bool.and_eq_true _ _).mp keeps
      exact inductionHypothesis (isDragged_after dragged keepsFirst) keepsRest

/-!
## What is shown between two moves
-/

/-- The action moves the pointer or releases it. -/
def Action.isPointer : Action → Bool
  | .pointerMove _ | .pointerUp => true
  | _ => false

/-- An editor goes on with its preview until the pointer is moved or released. -/
theorem preview?_after
    {session : Session}
    {place : Nat}
    {editor : ClipEditor}
    (found : session.timeline.editors[place]? = some editor)
    {action : Action}
    (still : action.isPointer = false) :
    ∃ later, (session.after action).timeline.editors[place]? = some later ∧
      later.preview? = editor.preview? := by
  cases touches : action.touchesTimeline with
  | false =>
      rw [session.timeline_after touches]
      exact ⟨editor, found, rfl⟩
  | true =>
      cases action with
      | refresh =>
          exact preview?_refresh found session.world.clips
      | onClip known action =>
          obtain ⟨refreshed, isRefreshed, same⟩ := preview?_refresh found session.world.clips
          have step := session.refresh.clipStep_performOnClip known action
          obtain ⟨later, isLater, shown⟩ := exists_of_map_eq step.shown isRefreshed
          exact ⟨later, isLater, (congrArg Prod.snd shown).trans same⟩
      | pointerMove | pointerUp =>
          exact absurd still (by simp [Action.isPointer])
      | _ =>
          exact absurd touches (by simp [Action.touchesTimeline])

/-- The preview stays while the pointer rests. -/
theorem preview?_run
    {session : Session}
    {place : Nat}
    {editor : ClipEditor}
    (found : session.timeline.editors[place]? = some editor)
    {actions : List Action}
    (still : ∀ action ∈ actions, action.isPointer = false) :
    ∃ later, (session.run actions).timeline.editors[place]? = some later ∧
      later.preview? = editor.preview? := by
  apply @run_induction (fun later => ∃ current,
    later.timeline.editors[place]? = some current ∧ current.preview? = editor.preview?)
  · rintro later action member ⟨current, isCurrent, same⟩
    obtain ⟨next, isNext, kept⟩ := preview?_after isCurrent (still action member)
    exact ⟨next, isNext, kept.trans same⟩
  · exact ⟨editor, found, rfl⟩

/-!
## The record that an editor has
-/

/-- The clips with which the editors were brought in line last. -/
def clipsInLine (session : Session) (clips : List Clip) : List Action → List Clip
  | [] => clips
  | action :: rest =>
      (session.after action).clipsInLine
        (if action.refreshes then session.world.clips else clips) rest

theorem isInLine_of_clips
    {before after : Timeline}
    (live : after.live = before.live)
    (same : after.editors.map ClipEditor.clip = before.editors.map ClipEditor.clip)
    {clips : List Clip}
    (inLine : before.IsInLine clips) :
    after.IsInLine clips := by
  intro known place member
  rw [live] at member
  obtain ⟨editor, found, latest⟩ := inLine known place member
  obtain ⟨next, isNext, clip⟩ := exists_of_map_eq same found
  exact ⟨next, isNext, clip ▸ latest⟩

/-- An action brings the editors in line with the world if it refreshes them. -/
theorem isInLine_after
    {session : Session}
    (exclusive : session.timeline.IsExclusive)
    {clips : List Clip}
    (inLine : session.timeline.IsInLine clips)
    (action : Action) :
    (session.after action).timeline.IsInLine
      (if action.refreshes then session.world.clips else clips) := by
  have refreshed : session.refresh.timeline.IsInLine session.world.clips :=
    fun _ _ member => exclusive.editor_refresh member
  cases touches : action.touchesTimeline with
  | false =>
      have still : action.refreshes = false := by
        cases action <;> first | rfl | exact absurd touches (by simp [Action.touchesTimeline])
      rw [session.timeline_after touches, still]
      exact inLine
  | true =>
      cases action with
      | refresh =>
          exact refreshed
      | onClip known action =>
          have step := session.refresh.clipStep_performOnClip known action
          exact isInLine_of_clips step.live step.clips refreshed
      | pointerMove x =>
          have live : (session.timeline.pointerMove x).1.live = session.timeline.live := rfl
          exact isInLine_of_clips live (session.timeline.pointerMove_clips x) inLine
      | pointerUp =>
          have live : session.timeline.pointerUp.live = session.timeline.live := rfl
          exact isInLine_of_clips live session.timeline.pointerUp_clips inLine
      | _ =>
          exact absurd touches (by simp [Action.touchesTimeline])

/-- The editors are in line with the clips of the last refresh. -/
theorem isInLine_run
    {session : Session}
    (exclusive : session.timeline.IsExclusive)
    {clips : List Clip}
    (inLine : session.timeline.IsInLine clips)
    (actions : List Action) :
    (session.run actions).timeline.IsInLine (session.clipsInLine clips actions) := by
  induction actions generalizing session clips with
  | nil =>
      exact inLine
  | cons action rest inductionHypothesis =>
      exact inductionHypothesis (isExclusive_after exclusive action)
        (isInLine_after exclusive inLine action)

/-!
## Times that can be computed
-/

/-- Where the pointer goes down, and the width of the area, when a drag begins. -/
def Action.positions : Action → List Num
  | .onClip _ (.beginDrag _ x area) => [x, area]
  | _ => []

/-- With finite positions a session stays computable. -/
theorem isComputable_run
    {session : Session}
    (exclusive : session.timeline.IsExclusive)
    (computable : session.timeline.IsComputable session.timeline.settings)
    {actions : List Action}
    (positions : ∀ action ∈ actions, ∀ number ∈ action.positions, number.IsPosition) :
    (session.run actions).timeline.IsComputable session.timeline.settings := by
  intro gesture listens
  rcases listening_run exclusive listens with
    earlier | ⟨before, action, since, id, clip, down, area, rfl, began, -⟩
  · exact computable gesture earlier
  · have notes := began.notes
    rw [settings_run] at notes
    have arePositions := positions action (by simp)
    rw [began.isPress] at arePositions
    exact ⟨_, clip.startTime, clip.endTime, down, area, notes,
      arePositions down List.mem_cons_self,
      arePositions area (List.mem_cons_of_mem down List.mem_cons_self)⟩

/-- A move of the pointer fails at no drag whose positions can be computed with. -/
theorem pointerMove_result
    {session : Session}
    (computable : session.timeline.IsComputable session.timeline.settings)
    (accepted : session.timeline.settings.IsComputable)
    {x : Num}
    (isPosition : x.IsPosition) :
    (session.pointerMove x).result = .ok () := by
  have succeeds : (session.timeline.pointerMove x).2.2 = none := by
    apply pointerMove_succeeds
    intro gesture listens
    obtain ⟨grip, start, stop, down, area, notes, ofDown, ofArea⟩ := computable gesture listens
    rw [notes.spanAt_eq]
    exact grip.timesAt_givesReals accepted start stop ofDown ofArea isPosition
  rw [pointerMove]
  simp only [succeeds]

/-!
## Runs
-/

/-- One update of the clip is sent by the editor that the drag holds, with the times of the span. -/
structure UpdatesOnce
    (session : Session)
    (id : String)
    (x : Num)
    (drag : ClipDrag)
    (span : Track.Span) : Prop where
  published :
    (session.pointerMove x).effects = sent ((session.timeline.answers x).map Prod.snd)
  once :
    ∃ editor startTime endTime,
      session.timeline.editor? id = some editor ∧
        span.start.toReal = .ok startTime ∧
        span.stop.toReal = .ok endTime ∧
        (session.timeline.answers x).filter (fun (other, _) => other.editor = drag.editor) =
          [(drag, .updateClip id editor.typedName startTime endTime)]

/-- Until the pointer is moved or released, the editor of the clip shows the times of the span. -/
def ShowsTimes (session : Session) (id : String) (span : Track.Span) : Prop :=
  ∀ rest,
    session.holds id rest = true →
      (∀ action ∈ rest, action.isPointer = false) →
        ∃ editor, (session.run rest).timeline.editor? id = some editor ∧ editor.times = span

/-- The times that are shown are those of the editor. -/
theorem ShowsTimes.now
    {session : Session}
    {id : String}
    {span : Track.Span}
    (shows : session.ShowsTimes id span) :
    ∃ editor, session.timeline.editor? id = some editor ∧ editor.times = span :=
  shows [] rfl (by simp)

/-- The editor of a dragged clip is the one that the gesture owns. -/
theorem editor?_eq_some
    {timeline : Timeline}
    {id : String}
    {gesture : Gesture ClipDrag}
    (dragged : timeline.IsDragged id gesture)
    {editor : ClipEditor}
    (found : timeline.editors[gesture.owner.editor]? = some editor) :
    timeline.editor? id = some editor := by
  rw [editor?, dragged.exclusive.place?_of_mem dragged.isLive]
  exact found

/-- No drag fails at a move that succeeds. -/
theorem silent_of_result
    {session : Session}
    {x : Num}
    (succeeds : (session.pointerMove x).result = .ok ()) :
    (session.timeline.pointerMove x).2.2 = none := by
  rw [pointerMove] at succeeds
  dsimp only at succeeds
  split at succeeds
  · exact nomatch succeeds
  · next silent =>
    exact silent

/-- A move that no drag fails at, while the clip is dragged. -/
theorem pointerMove_dragged
    {session : Session}
    {id : String}
    {gesture : Gesture ClipDrag}
    (dragged : session.timeline.IsDragged id gesture)
    {x : Num}
    (succeeds : (session.pointerMove x).result = .ok ()) :
    ∃ span, gesture.spanAt session.timeline.settings x = .ok span ∧
      session.UpdatesOnce id x gesture.owner span ∧
      (session.after (.pointerMove x)).ShowsTimes id span := by
  obtain ⟨sent, answered⟩ := dragged.exclusive.pointerMove_answers (silent_of_result succeeds)
  obtain ⟨editor, changed, command, found, answer, isChanged, once⟩ :=
    answered gesture dragged.listens
  obtain ⟨span, startTime, endTime, spans, starts, stops, rfl, rfl⟩ :=
    Gesture.answer_eq_ok_iff.mp answer
  obtain ⟨current, isCurrent, ofClip⟩ := dragged.exclusive.exists_editor dragged.isLive
  obtain rfl := Option.some.inj (isCurrent.symm.trans found)
  refine ⟨span, spans, ⟨?_, current, startTime, endTime, ?_, starts, stops, ?_⟩, ?_⟩
  · rw [pointerMove]
    exact congrArg Session.sent sent
  · exact editor?_eq_some dragged found
  · rw [once, ClipEditor.update, ofClip]
  · intro rest holds still
    have moved : (session.after (.pointerMove x)).timeline.IsDragged id gesture :=
      isDragged_after dragged rfl
    obtain ⟨shown, isShown, previewed⟩ :=
      @preview?_run (session.after (.pointerMove x)) _ _ isChanged rest still
    refine ⟨shown, editor?_eq_some (isDragged_run moved holds) isShown, ?_⟩
    rw [ClipEditor.times, previewed]
    rfl

/-- A drag begins, and the clip is dragged with what it has then. -/
theorem isDragged_of_begins
    {session : Session}
    (exclusive : session.timeline.IsExclusive)
    {id : String}
    {grip : Grip}
    {down area : Num}
    (begins : (session.beginDrag id grip down area).result = .ok true) :
    ∃ held gesture,
      session.timeline.editor? id = some held ∧
        gesture.Notes session.timeline.settings grip held.confirmed down area ∧
        (session.beginDrag id grip down area).session.timeline.IsDragged id gesture := by
  have later := (session.timeline.staysSafe_beginDrag id grip down area).exclusive exclusive
  rcases session.timeline.beginDrag_cases id grip down area with
    ⟨fails, -⟩ | ⟨held, gesture, beginsOn, begun⟩
  · exact absurd begins fails
  · have isHeld : session.timeline.editor? id = some held := by
      rw [editor?, beginsOn.found]
      exact beginsOn.inPlace
    have listening := listening_startDrag (beginsOn.keepsGrips.isExclusive exclusive) gesture
    refine ⟨held, _, isHeld, beginsOn.notes.activate true, later, ?_, ?_⟩
    · change _ ∈ (session.timeline.beginDrag id grip down area).1.hub.listening
      rw [begun]
      exact listening ▸ List.mem_append_right _ (List.mem_singleton_self _)
    · change _ ∈ (session.timeline.beginDrag id grip down area).1.live
      rw [begun]
      exact place?_eq_some beginsOn.found

/-- The editor of a clip that was dragged is idle after the release of the pointer. -/
theorem pointerUp_dragged
    {session : Session}
    {id : String}
    {gesture : Gesture ClipDrag}
    (dragged : session.timeline.IsDragged id gesture)
    {clips : List Clip}
    (inLine : session.timeline.IsInLine clips) :
    ∃ editor, (session.after .pointerUp).timeline.editor? id = some editor ∧
      editor.state = .idle ∧ editor.times = editor.confirmed ∧
      latestClip? clips id = some editor.clip := by
  obtain ⟨editor, found, latest⟩ := inLine _ _ dragged.isLive
  obtain ⟨later, isLater, clip, idle, noPreview⟩ :=
    dragged.exclusive.pointerUp_letsGo dragged.listens found
  refine ⟨later, ?_, idle, ?_, clip ▸ latest⟩
  · have placed : session.timeline.pointerUp.place? id = some gesture.owner.editor :=
      dragged.exclusive.place?_of_mem dragged.isLive
    change session.timeline.pointerUp.editor? id = some later
    rw [editor?, placed]
    exact isLater
  · rw [ClipEditor.times, noPreview]
    rfl

/--
A drag begins on a clip, and then anything is done but releasing the pointer, as long as the clip is
there whenever the editors are brought in line.  A move of the pointer leaves the world
and the records of the clips.  It sends one update of the clip from the editor that the drag holds,
and the times of it, which are shown until the pointer is moved or released, are those that belong to
the times at the beginning, where the pointer went down, the area, the settings and where the pointer is.
Under settings that pass their check no move fails, unless a position or a width is an integer with more
than a thousand bits.  After the release of the pointer the editor is idle and shows the record with which
the editors were brought in line last.
-/
theorem run_followsPointer
    (answer? : Option Bool)
    (settings : TimelineSettings)
    (before since : List Action)
    (id : String)
    (grip : Grip)
    (down area : Num) :
    let start := (fresh answer? settings).run before
    let press : Action := .onClip id (.beginDrag grip down area)
    let later := (start.after press).run since
    (start.refresh.beginDrag id grip down area).result = .ok true →
      (start.after press).holds id since = true →
      ∃ held place,
        start.refresh.timeline.editor? id = some held ∧
          latestClip? start.world.clips id = some held.clip ∧
          (∀ x,
            (later.after (.pointerMove x)).world = later.world ∧
              (later.after (.pointerMove x)).timeline.editors.map ClipEditor.clip =
                later.timeline.editors.map ClipEditor.clip ∧
              ((later.pointerMove x).result = .ok () →
                ∃ span,
                  grip.timesAt settings held.confirmed down area x = .ok span ∧
                    later.UpdatesOnce id x
                      { editor := place, grip, origin := held.confirmed } span ∧
                    (later.after (.pointerMove x)).ShowsTimes id span) ∧
              (settings.check = .ok settings →
                (∀ action ∈ before ++ press :: since,
                  ∀ number ∈ action.positions, number.IsPosition) →
                  x.IsPosition → (later.pointerMove x).result = .ok ())) ∧
          ∃ editor,
            (later.after .pointerUp).timeline.editor? id = some editor ∧
              editor.state = .idle ∧
              editor.times = editor.confirmed ∧
              latestClip?
                  ((fresh answer? settings).clipsInLine [] (before ++ press :: since)) id =
                some editor.clip := by
  intro start press later begins holds
  have startExclusive : start.timeline.IsExclusive :=
    isExclusive_run (isExclusive_new settings) before
  have startSettings : start.timeline.settings = settings :=
    settings_run (fresh answer? settings) before
  have refreshedSettings : start.refresh.timeline.settings = settings :=
    (start.timeline.refresh_settings start.world.clips).trans startSettings
  obtain ⟨held, gesture, isHeld, notes, pressed⟩ :=
    isDragged_of_begins (startExclusive.refresh start.world.clips) begins
  rw [refreshedSettings] at notes
  have dragged : later.timeline.IsDragged id gesture := isDragged_run pressed holds
  have isRun : later = (fresh answer? settings).run (before ++ press :: since) :=
    (run_append (fresh answer? settings) before (press :: since)).symm
  have laterSettings : later.timeline.settings = settings := by
    rw [isRun]
    exact settings_run (fresh answer? settings) (before ++ press :: since)
  have isDrag :
      gesture.owner = { editor := gesture.owner.editor, grip, origin := held.confirmed } := by
    rw [← notes.grip, ← notes.origin]
  refine ⟨held, gesture.owner.editor, isHeld,
    startExclusive.latestClip?_of_editor? isHeld, fun x => ⟨?_, ?_, ?_, ?_⟩, ?_⟩
  · exact (later.keepsScene_after rfl).world
  · exact later.timeline.pointerMove_clips x
  · intro succeeds
    obtain ⟨span, spans, updates, shows⟩ := pointerMove_dragged dragged succeeds
    rw [laterSettings, notes.spanAt_eq] at spans
    exact ⟨span, spans, isDrag ▸ updates, shows⟩
  · intro accepted positions isPosition
    have computable : later.timeline.IsComputable settings := by
      rw [isRun]
      exact isComputable_run (isExclusive_new settings) (isComputable_new settings) positions
    apply pointerMove_result _ _ isPosition
    · rw [laterSettings]
      exact computable
    · rw [laterSettings]
      exact (TimelineSettings.passes_of_check accepted).2.isComputable
  · apply pointerUp_dragged dragged
    rw [isRun]
    exact isInLine_run (isExclusive_new settings) (isInLine_new settings)
      (before ++ press :: since)

/-- A clip is dragged by ten pixels, the server answers with other times, and it is dragged on. -/
theorem run_followsPointer_echoed :
    let clip (times : String) : Message :=
      .text ("\x7b\"clips\": [\x7b\"id\": \"c1\", \"targetId\": 0, " ++ times ++ "\x7d]\x7d")
    let before : List Action := [.receive (clip "\"startTime\": 2, \"endTime\": 4")]
    let since : List Action :=
      [.pointerMove (.int 10), .receive (clip "\"startTime\": 3, \"endTime\": 5"), .refresh]
    let start := (fresh none {}).run before
    let press : Action := .onClip "c1" (.beginDrag .body (.int 0) (.int 665))
    let later := (start.after press).run since
    (start.refresh.beginDrag "c1" .body (.int 0) (.int 665)).result = .ok true ∧
      (start.after press).holds "c1" since = true ∧
      (later.pointerMove (.int 20)).result = .ok () ∧
      (∃ editor,
        (later.after (.pointerMove (.int 20))).timeline.editor? "c1" = some editor ∧
          editor.times = { start := .real 4, stop := .real 6 }) ∧
      ∃ editor,
        (later.after .pointerUp).timeline.editor? "c1" = some editor ∧
          editor.state = .idle := by
  intro clip before since start press later
  have begins : (start.refresh.beginDrag "c1" .body (.int 0) (.int 665)).result = .ok true := by
    decide +kernel
  have holds : (start.after press).holds "c1" since = true := by
    decide +kernel
  have confirmed :
      (start.refresh.timeline.editor? "c1").map ClipEditor.confirmed =
        some { start := .real 2, stop := .real 4 } := by
    decide +kernel
  have times :
      Grip.body.timesAt {} { start := .real 2, stop := .real 4 } (.int 0) (.int 665) (.int 20) =
        .ok { start := .real 4, stop := .real 6 } := by
    decide +kernel
  obtain ⟨held, place, isHeld, -, moves, released, isReleased, idle, -, -⟩ :=
    run_followsPointer none {} before since "c1" .body (.int 0) (.int 665) begins holds
  have origin : held.confirmed = { start := .real 2, stop := .real 4 } :=
    Option.some.inj ((congrArg (Option.map ClipEditor.confirmed) isHeld).symm.trans confirmed)
  obtain ⟨-, -, follows, neverFails⟩ := moves (.int 20)
  have succeeds : (later.pointerMove (.int 20)).result = .ok () :=
    neverFails (by decide +kernel) (by decide +kernel) (by decide +kernel)
  obtain ⟨span, spans, -, shows⟩ := follows succeeds
  rw [origin, times] at spans
  obtain ⟨editor, isShown, isSpan⟩ := shows.now
  exact ⟨begins, holds, succeeds, ⟨editor, isShown, isSpan.trans (Except.ok.inj spans).symm⟩,
    released, isReleased, idle⟩

end Session

end SceneEditor
