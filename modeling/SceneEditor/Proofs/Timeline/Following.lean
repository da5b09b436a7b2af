import SceneEditor.Proofs.Timeline.Updates

namespace SceneEditor

/-!
# What a drag shows and sends

A move of the pointer asks each drag for one answer.  The answer of a drag is computed from what it
noted when it began and from where the pointer is now, so neither the moves before nor the
records that came in between matter.  Its editor shows the times that were sent, and
keeps the record of its clip.
-/

/--
The times of a clip that is dragged by its grip: from the times that it had, where the pointer went
down, the width of the area at that moment, and where the pointer is.
-/
def Grip.timesAt
    (grip : Grip)
    (settings : TimelineSettings)
    (origin : Track.Span)
    (down area x : Num) :
    Except NumberError Track.Span := do
  let trackWidth ← Track.width area settings.gutter
  let delta ← Track.seconds (← x.sub down) trackWidth settings.maxTime
  grip.move settings origin delta

namespace Gesture

/-- The times that a drag gives to its clip. -/
def spanAt (gesture : Gesture ClipDrag) (settings : TimelineSettings) (x : Num) :
    Except NumberError Track.Span := do
  gesture.owner.grip.move settings gesture.owner.origin (← gesture.secondsAt x)

/-- The drag noted the times, the place of the pointer and the area when it began. -/
structure Notes
    (gesture : Gesture ClipDrag)
    (settings : TimelineSettings)
    (grip : Grip)
    (origin : Track.Span)
    (down area : Num) : Prop where
  startX : gesture.startX = down
  trackWidth : Track.width area settings.gutter = .ok gesture.trackWidth
  maxTime : gesture.maxTime = settings.maxTime
  grip : gesture.owner.grip = grip
  origin : gesture.owner.origin = origin

/-- What a gesture noted decides on the times at a position. -/
theorem Notes.spanAt_eq
    {gesture : Gesture ClipDrag}
    {settings : TimelineSettings}
    {grip : Grip}
    {origin : Track.Span}
    {down area : Num}
    (notes : gesture.Notes settings grip origin down area)
    (x : Num) :
    gesture.spanAt settings x = grip.timesAt settings origin down area x := by
  rw [spanAt, secondsAt, Grip.timesAt, notes.startX, notes.maxTime, notes.trackWidth, notes.grip,
    notes.origin]
  cases x.sub down with
  | error | ok =>
      rfl

theorem Notes.activate
    {gesture : Gesture ClipDrag}
    {settings : TimelineSettings}
    {grip : Grip}
    {origin : Track.Span}
    {down area : Num}
    (notes : gesture.Notes settings grip origin down area)
    (active : Bool) :
    Notes { gesture with active } settings grip origin down area :=
  ⟨notes.startX, notes.trackWidth, notes.maxTime, notes.grip, notes.origin⟩

/-- What an editor becomes by a move, and the command that it sends. -/
def answer
    (gesture : Gesture ClipDrag)
    (settings : TimelineSettings)
    (x : Num)
    (editor : ClipEditor) :
    Except NumberError (ClipEditor × Command) := do
  let delta ← gesture.secondsAt x
  editor.preview (← gesture.owner.grip.move settings gesture.owner.origin delta)

/-- The command that a drag sends, if it answers a move. -/
def answer?
    (gesture : Gesture ClipDrag)
    (settings : TimelineSettings)
    (x : Num)
    (editors : List ClipEditor) :
    Option (ClipDrag × Command) := do
  let editor ← editors[gesture.owner.editor]?
  let (_, command) ← (gesture.answer settings x editor).toOption
  return (gesture.owner, command)

/-- The answer of a gesture depends on its own editor only. -/
theorem answer?_congr
    {gesture : Gesture ClipDrag}
    {settings : TimelineSettings}
    {x : Num}
    {editors others : List ClipEditor}
    (same : editors[gesture.owner.editor]? = others[gesture.owner.editor]?) :
    gesture.answer? settings x editors = gesture.answer? settings x others := by
  rw [answer?, answer?, same]

theorem fst_of_answer?
    {gesture : Gesture ClipDrag}
    {settings : TimelineSettings}
    {x : Num}
    {editors : List ClipEditor}
    {answer : ClipDrag × Command}
    (answered : gesture.answer? settings x editors = some answer) :
    answer.1 = gesture.owner := by
  obtain ⟨editor, -, answered⟩ := Option.bind_eq_some_iff.mp answered
  obtain ⟨⟨changed, command⟩, -, answered⟩ := Option.bind_eq_some_iff.mp answered
  rw [← Option.some.inj answered]

theorem answer?_of_answer
    {gesture : Gesture ClipDrag}
    {settings : TimelineSettings}
    {x : Num}
    {editors : List ClipEditor}
    {editor changed : ClipEditor}
    {command : Command}
    (found : editors[gesture.owner.editor]? = some editor)
    (answers : gesture.answer settings x editor = .ok (changed, command)) :
    gesture.answer? settings x editors = some (gesture.owner, command) := by
  rw [answer?, found]
  simp [answers, Except.toOption]

/-- A gesture answers with an update of the times exactly where they can be computed. -/
theorem answer_eq_ok_iff
    {gesture : Gesture ClipDrag}
    {settings : TimelineSettings}
    {x : Num}
    {editor changed : ClipEditor}
    {command : Command} :
    gesture.answer settings x editor = .ok (changed, command) ↔
      ∃ span startTime endTime,
        gesture.spanAt settings x = .ok span ∧
          span.start.toReal = .ok startTime ∧ span.stop.toReal = .ok endTime ∧
          changed = { editor with preview? := some span } ∧
          command = editor.update startTime endTime := by
  simp only [answer, spanAt, Attempt.bind_eq_ok_iff, ClipEditor.preview_eq_ok_iff]
  constructor
  · rintro ⟨delta, moved, span, spans, startTime, endTime, previewed⟩
    exact ⟨span, startTime, endTime, ⟨delta, moved, spans⟩, previewed⟩
  · rintro ⟨span, startTime, endTime, ⟨delta, moved, spans⟩, previewed⟩
    exact ⟨delta, moved, span, spans, startTime, endTime, previewed⟩

end Gesture

namespace Timeline

/-- What a gesture does when the pointer moves and its editor exists. -/
theorem dragMoved_found
    {gesture : Gesture ClipDrag}
    {state : MoveState}
    {editor : ClipEditor}
    (found : state.editors[gesture.owner.editor]? = some editor)
    (settings : TimelineSettings)
    (x : Num) :
    dragMoved settings x gesture state =
      match gesture.answer settings x editor with
      | .error error => (state, some error)
      | .ok (changed, command) =>
          ({ editors := state.editors.set gesture.owner.editor changed
             sent := state.sent ++ [command] }, none) := by
  rw [dragMoved, found]
  rfl

/-- A drag that does not fail sets its editor, and sends one command. -/
theorem dragMoved_of_succeeds
    {settings : TimelineSettings}
    {x : Num}
    {gesture : Gesture ClipDrag}
    {state : MoveState}
    {editor : ClipEditor}
    (found : state.editors[gesture.owner.editor]? = some editor)
    (succeeds : (dragMoved settings x gesture state).2 = none) :
    ∃ changed command,
      gesture.answer settings x editor = .ok (changed, command) ∧
        dragMoved settings x gesture state =
          ({ editors := state.editors.set gesture.owner.editor changed
             sent := state.sent ++ [command] }, none) := by
  rw [dragMoved_found found] at succeeds ⊢
  cases answered : gesture.answer settings x editor with
  | error error =>
      rw [answered] at succeeds
      exact absurd succeeds (by simp)
  | ok answer =>
      exact ⟨answer.1, answer.2, rfl, rfl⟩

/-- A drag answers from its own editor, which the answers of the other drags leave alone. -/
theorem deliver_dragMoved
    {hub : PointerHub ClipDrag}
    {settings : TimelineSettings}
    {x : Num}
    {places : List Nat}
    {state : MoveState}
    (present :
      ∀ gesture ∈ places.filterMap (hub.gestures[·]?),
        gesture.owner.editor < state.editors.length)
    (apart :
      ((places.filterMap (hub.gestures[·]?)).map fun gesture => gesture.owner.editor).Nodup)
    (succeeds : (PointerHub.deliver (hub.tell (dragMoved settings x)) places state).2 = none) :
    let later := (PointerHub.deliver (hub.tell (dragMoved settings x)) places state).1
    let gestures := places.filterMap (hub.gestures[·]?)
    later.sent =
        state.sent ++ (gestures.filterMap (·.answer? settings x state.editors)).map Prod.snd ∧
      (∀ gesture ∈ gestures,
        ∃ editor changed command,
          state.editors[gesture.owner.editor]? = some editor ∧
            gesture.answer settings x editor = .ok (changed, command) ∧
            later.editors[gesture.owner.editor]? = some changed) ∧
      ∀ place ∉ gestures.map fun gesture => gesture.owner.editor,
        later.editors[place]? = state.editors[place]? := by
  induction places generalizing state with
  | nil =>
      simp [PointerHub.deliver]
  | cons place rest inductionHypothesis =>
      rw [PointerHub.deliver] at succeeds ⊢
      rw [PointerHub.tell] at succeeds ⊢
      cases made : hub.gestures[place]? with
      | none =>
          simp only [made, List.filterMap_cons] at present apart succeeds ⊢
          exact inductionHypothesis present apart succeeds
      | some gesture =>
          simp only [made, List.filterMap_cons, List.map_cons, List.nodup_cons,
            List.forall_mem_cons] at present apart succeeds ⊢
          obtain ⟨isPresent, present⟩ := present
          obtain ⟨isApart, apart⟩ := apart
          have found := List.getElem?_eq_getElem isPresent
          have silent : (dragMoved settings x gesture state).2 = none := by
            rcases told : dragMoved settings x gesture state with ⟨next, _ | failure⟩
            · rfl
            · rw [told] at succeeds
              exact succeeds
          obtain ⟨changed, command, answers, told⟩ := dragMoved_of_succeeds found silent
          rw [told] at succeeds ⊢
          -- the drags behind find their editors as they were before this one answered
          have others {place : Nat} (other : place ≠ gesture.owner.editor) :
              (state.editors.set gesture.owner.editor changed)[place]? = state.editors[place]? :=
            List.getElem?_set_ne (Ne.symm other)
          have elsewhere {other : Gesture ClipDrag}
              (member : other ∈ rest.filterMap (hub.gestures[·]?)) :
              other.owner.editor ≠ gesture.owner.editor :=
            fun same => isApart (List.mem_map.mpr ⟨other, member, same⟩)
          obtain ⟨sent, shown, kept⟩ :=
            inductionHypothesis (by simpa using present) apart succeeds
          refine ⟨?_, ⟨⟨_, changed, command, found, answers, ?_⟩, ?_⟩, ?_⟩
          · have same :
                (rest.filterMap (hub.gestures[·]?)).filterMap (·.answer? settings x
                    (state.editors.set gesture.owner.editor changed)) =
                  (rest.filterMap (hub.gestures[·]?)).filterMap
                    (·.answer? settings x state.editors) := by
              refine List.filterMap_congr fun other member => ?_
              exact Gesture.answer?_congr (others (elsewhere member))
            rw [sent, same, Gesture.answer?_of_answer found answers, List.append_assoc]
            rfl
          · rw [kept _ isApart]
            exact List.getElem?_set_self isPresent
          · intro other member
            rw [← others (elsewhere member)]
            exact shown other member
          · intro place outside
            rw [List.mem_cons, not_or] at outside
            rw [kept place outside.2, others outside.1]

/-!
## A move
-/

/-- What the drags answer to a move, each for itself. -/
def answers (timeline : Timeline) (x : Num) : List (ClipDrag × Command) :=
  timeline.hub.listening.filterMap (·.answer? timeline.settings x timeline.editors)

/-- No drag answers twice. -/
theorem answers_sublist
    (timeline : Timeline)
    (x : Num) :
    ((timeline.answers x).map fun answer => answer.1.editor).Sublist
      (timeline.hub.listening.map fun gesture => gesture.owner.editor) := by
  rw [answers]
  induction timeline.hub.listening with
  | nil =>
      exact List.Sublist.refl _
  | cons gesture rest inductionHypothesis =>
      rw [List.filterMap_cons, List.map_cons]
      cases answered : gesture.answer? timeline.settings x timeline.editors with
      | none =>
          exact inductionHypothesis.cons _
      | some answer =>
          rw [List.map_cons, Gesture.fst_of_answer? answered]
          exact inductionHypothesis.cons_cons _

/-- The editor of a gesture that listens is held by it. -/
theorem IsExclusive.exists_held
    {timeline : Timeline}
    (exclusive : timeline.IsExclusive)
    {gesture : Gesture ClipDrag}
    (listens : gesture ∈ timeline.hub.listening) :
    ∃ editor, timeline.editors[gesture.owner.editor]? = some editor ∧
      editor.state = .gripped gesture.owner.grip := by
  have isDrag : gesture.owner ∈ timeline.drags := by
    rw [drags, PointerHub.owners_eq]
    exact List.mem_map_of_mem listens
  obtain ⟨id, standing⟩ := exclusive.held _ isDrag
  obtain ⟨editor, found, isStanding⟩ := Option.map_eq_some_iff.mp standing
  exact ⟨editor, found, (Prod.mk.inj isStanding).2⟩

/-- No two gestures that listen share an editor. -/
theorem IsExclusive.apart_listening
    {timeline : Timeline}
    (exclusive : timeline.IsExclusive) :
    (timeline.hub.listening.map fun gesture => gesture.owner.editor).Nodup := by
  have apart := exclusive.apart
  rw [drags, PointerHub.owners_eq, List.map_map] at apart
  exact apart

/-- One entry has its key. -/
theorem filter_key_eq_singleton
    [DecidableEq κ]
    {entries : List α}
    {key : α → κ}
    (apart : (entries.map key).Nodup)
    {entry : α}
    (member : entry ∈ entries) :
    entries.filter (fun other => key other = key entry) = [entry] := by
  induction entries with
  | nil =>
      exact absurd member List.not_mem_nil
  | cons first rest inductionHypothesis =>
      rw [List.map_cons, List.nodup_cons] at apart
      rcases List.mem_cons.mp member with rfl | inRest
      · have none : rest.filter (fun other => key other = key entry) = [] := by
          rw [List.filter_eq_nil_iff]
          intro other isOther same
          exact apart.1 (List.mem_map.mpr ⟨other, isOther, of_decide_eq_true same⟩)
        simp [none]
      · have differs : key first ≠ key entry :=
          fun same => apart.1 (List.mem_map.mpr ⟨entry, inRest, same.symm⟩)
        simp [differs, inductionHypothesis apart.2 inRest]

/--
A move that no drag fails at: the commands are the answers, every drag has answered once, and its
editor shows the times that it sent.
-/
theorem IsExclusive.pointerMove_answers
    {timeline : Timeline}
    (exclusive : timeline.IsExclusive)
    {x : Num}
    (succeeds : (timeline.pointerMove x).2.2 = none) :
    (timeline.pointerMove x).2.1 = (timeline.answers x).map Prod.snd ∧
      ∀ gesture ∈ timeline.hub.listening,
        ∃ editor changed command,
          timeline.editors[gesture.owner.editor]? = some editor ∧
            gesture.answer timeline.settings x editor = .ok (changed, command) ∧
            (timeline.pointerMove x).1.editors[gesture.owner.editor]? = some changed ∧
            (timeline.answers x).filter (fun (drag, _) => drag.editor = gesture.owner.editor) =
              [(gesture.owner, command)] := by
  have present : ∀ gesture ∈ timeline.hub.listening,
      gesture.owner.editor < timeline.editors.length := by
    intro gesture listens
    obtain ⟨editor, found, -⟩ := exclusive.exists_held listens
    exact (List.getElem?_eq_some_iff.mp found).1
  obtain ⟨sent, shown, -⟩ :=
    @deliver_dragMoved timeline.hub timeline.settings x timeline.hub.moveListeners
      { editors := timeline.editors } present exclusive.apart_listening succeeds
  refine ⟨sent, fun gesture listens => ?_⟩
  obtain ⟨editor, changed, command, found, answered, isShown⟩ := shown gesture listens
  refine ⟨editor, changed, command, found, answered, isShown, ?_⟩
  have member : (gesture.owner, command) ∈ timeline.answers x :=
    List.mem_filterMap.mpr ⟨gesture, listens, Gesture.answer?_of_answer found answered⟩
  have apart := exclusive.apart_listening.sublist (timeline.answers_sublist x)
  exact filter_key_eq_singleton apart member

/-- A gesture whose times can be computed goes on. -/
theorem dragMoved_succeeds
    {settings : TimelineSettings}
    {x : Num}
    {gesture : Gesture ClipDrag}
    {start stop : Binary64}
    (spans : gesture.spanAt settings x = .ok { start := .real start, stop := .real stop })
    (state : MoveState) :
    (dragMoved settings x gesture state).2 = none := by
  cases found : state.editors[gesture.owner.editor]? with
  | none =>
      rw [dragMoved, found]
  | some editor =>
      have answered :
          gesture.answer settings x editor =
            .ok ({ editor with preview? := some { start := .real start, stop := .real stop } },
              editor.update start stop) :=
        Gesture.answer_eq_ok_iff.mpr ⟨_, start, stop, spans, rfl, rfl, rfl, rfl⟩
      rw [dragMoved_found found, answered]

/-- A move fails at no drag whose times can be computed. -/
theorem pointerMove_succeeds
    {timeline : Timeline}
    {x : Num}
    (spans :
      ∀ gesture ∈ timeline.hub.listening,
        ∃ start stop,
          gesture.spanAt timeline.settings x =
            .ok { start := .real start, stop := .real stop }) :
    (timeline.pointerMove x).2.2 = none := by
  have told
      (place : Nat)
      (listens : place ∈ timeline.hub.moveListeners)
      (state : MoveState) :
      (timeline.hub.tell (dragMoved timeline.settings x) place state).2 = none := by
    rw [PointerHub.tell]
    split
    · next gesture found =>
      obtain ⟨start, stop, spans⟩ :=
        spans gesture (List.mem_filterMap.mpr ⟨place, listens, found⟩)
      exact dragMoved_succeeds spans state
    · rfl
  exact PointerHub.deliver_succeeds told { editors := timeline.editors }

/-!
## The beginning and the end
-/

/-- A drag begins on an idle editor of a current clip, and notes what the clip has then. -/
structure BeginsOn
    (timeline : Timeline)
    (id : String)
    (grip : Grip)
    (down area : Num)
    (editor : ClipEditor)
    (gesture : Gesture ClipDrag) : Prop where
  found : timeline.place? id = some gesture.owner.editor
  inPlace : timeline.editors[gesture.owner.editor]? = some editor
  idle : editor.state = .idle
  notes : gesture.Notes timeline.settings grip editor.confirmed down area

/-- A drag begins on an editor, or it leaves the hub as it is. -/
theorem beginDrag_cases
    (timeline : Timeline)
    (id : String)
    (grip : Grip)
    (down area : Num) :
    ((timeline.beginDrag id grip down area).2 ≠ .ok true ∧
        (timeline.beginDrag id grip down area).1.hub = timeline.hub) ∨
      ∃ editor gesture,
        timeline.BeginsOn id grip down area editor gesture ∧
          timeline.beginDrag id grip down area =
            ((timeline.modify gesture.owner.editor fun editor => editor.hold grip).startDrag
              gesture, .ok true) := by
  unfold beginDrag
  split
  · next place editor found isEditor =>
    have inPlace : timeline.editors[place]? = some editor := by
      simpa [editor?, found] using isEditor
    split
    · next idle =>
      dsimp only
      split
      · exact Or.inl ⟨by simp, rfl⟩
      · next measured =>
        exact Or.inr ⟨editor, _, ⟨found, inPlace, idle, ⟨rfl, measured, rfl, rfl, rfl⟩⟩, rfl⟩
    · exact Or.inl ⟨by simp, rfl⟩
  · exact Or.inl ⟨by simp, rfl⟩

theorem BeginsOn.keepsGrips
    {timeline : Timeline}
    {id : String}
    {grip : Grip}
    {down area : Num}
    {editor : ClipEditor}
    {gesture : Gesture ClipDrag}
    (begins : timeline.BeginsOn id grip down area editor gesture) :
    KeepsGrips timeline
      (timeline.modify gesture.owner.editor fun editor => editor.hold grip) :=
  keepsGrips_hold begins.inPlace begins.idle grip

/-- A gesture that is started listens behind the others. -/
theorem listening_startDrag
    {timeline : Timeline}
    (exclusive : timeline.IsExclusive)
    (gesture : Gesture ClipDrag) :
    (timeline.startDrag gesture).hub.listening =
      timeline.hub.listening ++ [{ gesture with active := true }] :=
  PointerHub.listening_start_make exclusive.paired gesture

/-- Releasing a gesture keeps all owners. -/
theorem owner_release
    (hub : PointerHub β)
    (place other : Nat) :
    ((hub.release place).gestures[other]?).map Gesture.owner =
      (hub.gestures[other]?).map Gesture.owner := by
  change ((hub.gestures.modify place _)[other]?).map Gesture.owner = _
  rw [List.getElem?_modify]
  cases hub.gestures[other]? with
  | none =>
      rfl
  | some gesture =>
      by_cases same : place = other
      · simp [same]
      · simp [same]

/-- A drag that ends releases its gesture and its editor. -/
theorem finish_dragEnded
    (told : Nat)
    (current : PointerHub ClipDrag × List ClipEditor) :
    (PointerHub.finish (PointerHub.aside dragEnded) told current).1 =
      (current.1.release told,
        match current.1.gestures[told]? with
        | some gesture => current.2.modify gesture.owner.editor ClipEditor.letGo
        | none => current.2) := by
  rw [PointerHub.finish, PointerHub.tell]
  cases current.1.gestures[told]? with
  | none | some =>
      rfl

/-- The release of the pointer lets go of the editor of every drag, which keeps its record. -/
theorem IsExclusive.pointerUp_letsGo
    {timeline : Timeline}
    (exclusive : timeline.IsExclusive)
    {gesture : Gesture ClipDrag}
    (listens : gesture ∈ timeline.hub.listening)
    {editor : ClipEditor}
    (found : timeline.editors[gesture.owner.editor]? = some editor) :
    ∃ later, timeline.pointerUp.editors[gesture.owner.editor]? = some later ∧
      later.clip = editor.clip ∧ later.state = .idle ∧ later.preview? = none := by
  obtain ⟨place, listensAt, made⟩ := List.mem_filterMap.mp listens
  let invariant (waiting : List Nat) (current : PointerHub ClipDrag × List ClipEditor) : Prop :=
    (current.1.gestures[place]?).map Gesture.owner = some gesture.owner ∧
      ∃ later, current.2[gesture.owner.editor]? = some later ∧ later.clip = editor.clip ∧
        (place ∈ waiting ∨ later.state = .idle ∧ later.preview? = none)
  have kept
      (told : Nat)
      (waiting : List Nat)
      (current : PointerHub ClipDrag × List ClipEditor)
      (holds : invariant (told :: waiting) current) :
      invariant waiting (PointerHub.finish (PointerHub.aside dragEnded) told current).1 := by
    obtain ⟨owned, later, isLater, clip, waits⟩ := holds
    have released :
        ((current.1.release told).gestures[place]?).map Gesture.owner = some gesture.owner :=
      (owner_release current.1 told place).trans owned
    rw [finish_dragEnded]
    refine ⟨released, ?_⟩
    cases isTold : current.1.gestures[told]? with
    | none =>
        refine ⟨later, isLater, clip, waits.imp_left fun waits => ?_⟩
        rcases List.mem_cons.mp waits with rfl | waits
        · rw [isTold] at owned
          exact absurd owned (by simp)
        · exact waits
    | some other =>
        by_cases same : other.owner.editor = gesture.owner.editor
        · exact ⟨later.letGo, by simp [same, isLater], clip, Or.inr ⟨rfl, rfl⟩⟩
        · refine ⟨later, (List.getElem?_modify_ne _ _ same).trans isLater, clip,
            waits.imp_left fun waits => ?_⟩
          rcases List.mem_cons.mp waits with rfl | waits
          · rw [isTold] at owned
            exact absurd (congrArg ClipDrag.editor (Option.some.inj owned)) same
          · exact waits
  have start : invariant timeline.hub.upListeners (timeline.hub, timeline.editors) :=
    ⟨congrArg _ made, editor, found, rfl, Or.inl (exclusive.paired.same ▸ listensAt)⟩
  have succeeds : (timeline.hub.pointerUp dragEnded timeline.editors).2 = none :=
    Option.eq_none_iff_forall_not_mem.mpr fun failure => failure.elim
  obtain ⟨-, later, isLater, clip, waits | ended⟩ := PointerHub.deliver_keeps kept start
  · rw [PointerHub.unreached_of_succeeds succeeds] at waits
    exact absurd waits List.not_mem_nil
  · exact ⟨later, isLater, clip, ended⟩

end Timeline

end SceneEditor
