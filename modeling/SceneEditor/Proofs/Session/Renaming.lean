import SceneEditor.Proofs.Session.Deeds

namespace SceneEditor

/-!
# Names that are typed in a session

From the moment a renaming begins until it is committed or cancelled, and as long as its clip is there
whenever the editors are brought in line, the name that was typed last stays, whatever is received
and moved in between.  No drag holds the editor meanwhile, so when the renaming ends the editor
is at rest.
-/

namespace ClipAction

/-- The name that an action types. -/
def typed? : ClipAction → Option String
  | .typeName name => some name
  | _ => none

/-- The action takes the typed name over or throws it away. -/
def endsNaming : ClipAction → Bool
  | .commitRename | .cancelRename => true
  | _ => false

end ClipAction

namespace Timeline

/-- The editor of a clip, in which a name is being typed. -/
structure IsTyped
    (timeline : Timeline)
    (id : String)
    (place : Nat)
    (editor : ClipEditor) : Prop where
  isPlace : timeline.place? id = some place
  isEditor : timeline.editors[place]? = some editor
  naming : editor.state = .naming

/-- An editor is idle, shows its record, and has no gesture that listens. -/
structure IsAtRest (timeline : Timeline) (place : Nat) (editor : ClipEditor) : Prop where
  isEditor : timeline.editors[place]? = some editor
  idle : editor.state = .idle
  shows : editor.preview? = none
  unheard :
    ∀ (number : Nat) (gesture : Gesture ClipDrag),
      timeline.hub.gestures[number]? = some gesture →
        gesture.owner.editor = place →
          number ∉ timeline.hub.moveListeners ∧ number ∉ timeline.hub.upListeners

variable {timeline : Timeline} {id : String} {place : Nat} {editor : ClipEditor}

theorem IsTyped.isLive
    (typed : timeline.IsTyped id place editor) :
    (id, place) ∈ timeline.live :=
  place?_eq_some typed.isPlace

theorem IsTyped.editor?_eq
    (typed : timeline.IsTyped id place editor) :
    timeline.editor? id = some editor := by
  rw [editor?, typed.isPlace]
  exact typed.isEditor

theorem IsTyped.isGripped
    (typed : timeline.IsTyped id place editor) :
    editor.isGripped = false := by
  rw [ClipEditor.isGripped, typed.naming]

/-- No gesture owns an editor that is being renamed. -/
theorem IsTyped.isFree
    (typed : timeline.IsTyped id place editor)
    (exclusive : timeline.IsExclusive) :
    timeline.IsFree place :=
  exclusive.isFree typed.isEditor typed.isGripped

/-- The editor that is being renamed has the clip of the id. -/
theorem IsTyped.id_eq
    (typed : timeline.IsTyped id place editor)
    (exclusive : timeline.IsExclusive) :
    editor.clip.id = id := by
  obtain ⟨found, isFound, ofClip⟩ := exclusive.exists_editor typed.isLive
  obtain rfl := Option.some.inj (isFound.symm.trans typed.isEditor)
  exact ofClip

/-- An editor that stays in its place, and in which a name is typed still. -/
theorem IsTyped.stays
    (typed : timeline.IsTyped id place editor)
    {later : Timeline}
    (exclusive : later.IsExclusive)
    (live : later.live = timeline.live)
    {changed : ClipEditor}
    (isEditor : later.editors[place]? = some changed)
    (state : changed.state = editor.state) :
    later.IsTyped id place changed where
  isPlace := exclusive.place?_of_mem (live ▸ typed.isLive)
  isEditor := isEditor
  naming := state.trans typed.naming

/-- A refresh that keeps the clip keeps the typed name. -/
theorem IsTyped.refresh
    (typed : timeline.IsTyped id place editor)
    (exclusive : timeline.IsExclusive)
    {clips : List Clip}
    (present : ∃ clip ∈ clips, clip.id = id) :
    ∃ later, (timeline.refresh clips).IsTyped id place later ∧
      later.typedName = editor.typedName := by
  obtain ⟨later, isLater, goesOn⟩ := goesOn_refresh typed.isEditor clips
  have isLive : (id, place) ∈ (timeline.refresh clips).live := mem_live_refresh typed.isLive present
  exact ⟨later, ⟨(exclusive.refresh clips).place?_of_mem isLive, isLater,
    goesOn.state.trans typed.naming⟩, goesOn.typedName typed.naming⟩

/-- An editor that no drag holds is at rest once it is idle. -/
theorem isAtRest_modifyClip
    (typed : timeline.IsTyped id place editor)
    (exclusive : timeline.IsExclusive)
    (plain : timeline.IsPlain)
    {change : ClipEditor → ClipEditor}
    {rested : ClipEditor}
    (changed : change editor = rested)
    (idle : rested.state = .idle)
    (shown : rested.preview? = editor.preview?) :
    (timeline.modifyClip id change).IsAtRest place rested where
  isEditor := changed ▸ exclusive.editor_modifyClip typed.isLive typed.isEditor change
  idle := idle
  shows := shown.trans (plain place editor typed.isEditor typed.isGripped)
  unheard := by
    rw [modifyClip_hub]
    rintro number gesture found rfl
    have silent : number ∉ timeline.hub.moveListeners := fun listens =>
      (typed.isFree exclusive).ne_owner listens (congrArg (Option.map Gesture.owner) found) rfl
    exact ⟨silent, exclusive.paired.same ▸ silent⟩

end Timeline

namespace Session

open Timeline

variable {session : Session} {id : String} {place : Nat} {editor : ClipEditor}

/-!
## Deeds while a name is typed
-/

/-- The name that the deed types for a clip. -/
def Deed.typed? (id : String) (deed : Deed) : Option String :=
  (deed.onClip? id).bind ClipAction.typed?

/-- The renaming goes on: it is not ended, and the clip is there if the editors are brought in line. -/
def keepsNaming (session : Session) (id : String) (deed : Deed) : Bool :=
  !(deed.onClip? id).any ClipAction.endsNaming &&
    (!deed.refreshes || session.world.clips.any fun clip => clip.id == id)

/-- The renaming goes on during the deeds. -/
def isNamedThrough (session : Session) (id : String) : List Deed → Bool
  | [] => true
  | deed :: rest =>
      session.keepsNaming id deed && (session.doing deed).isNamedThrough id rest

/-- What was typed last, or the name if nothing was typed. -/
def typedLast (id name : String) (deeds : List Deed) : String :=
  (deeds.filterMap (Deed.typed? id)).getLast?.getD name

/-- A name that is typed later takes the place of one typed before. -/
theorem typedLast_cons
    (id name : String)
    (deed : Deed)
    (rest : List Deed) :
    typedLast id name (deed :: rest) = typedLast id ((deed.typed? id).getD name) rest := by
  rw [typedLast, typedLast, List.filterMap_cons]
  cases deed.typed? id with
  | none =>
      rfl
  | some newer =>
      rw [List.getLast?_cons]
      rfl

/-- What is done to another clip leaves the editor as it is. -/
theorem ClipStep.editors_of_ne
    {timeline later : Timeline}
    {known : String}
    {action : ClipAction}
    (step : ClipStep timeline known action later)
    (exclusive : timeline.IsExclusive)
    (isLive : (id, place) ∈ timeline.live)
    (other : known ≠ id) :
    later.editors[place]? = timeline.editors[place]? := by
  cases step with
  | same =>
      rfl
  | changed =>
      exact exclusive.editors_modifyClip_of_ne isLive other _
  | dragged =>
      exact exclusive.editors_beginDrag_of_ne isLive other _ _ _

/-- An editor in which a name is typed is held by no drag. -/
theorem beginDrag_refused
    (typed : session.timeline.IsTyped id place editor)
    (grip : Grip)
    (x area : Num) :
    session.beginDrag id grip x area = session.only (.ok false) := by
  have refused : session.timeline.beginDrag id grip x area = (session.timeline, .ok false) := by
    rw [Timeline.beginDrag, typed.isPlace, typed.editor?_eq]
    simp [typed.naming]
  rw [beginDrag, refused]
  rfl

/-- What is done with an editor in which a name is typed, short of ending this. -/
theorem performOnClip_typed
    (exclusive : session.timeline.IsExclusive)
    (typed : session.timeline.IsTyped id place editor)
    {action : ClipAction}
    (goesOn : action.endsNaming = false) :
    ∃ later,
      (session.performOnClip id action).session.timeline.editors[place]? = some later ∧
        later.state = editor.state ∧
        later.typedName = action.typed?.getD editor.typedName := by
  have changed (change : ClipEditor → ClipEditor) :
      (session.modifyClip id change).timeline.editors[place]? = some (change editor) :=
    exclusive.editor_modifyClip typed.isLive typed.isEditor change
  cases action with
  | beginRename =>
      have same : editor.beginRename.1 = editor := by
        simp [ClipEditor.beginRename, typed.naming]
      refine ⟨editor, ?_, rfl, rfl⟩
      change (session.beginRename id).session.timeline.editors[place]? = _
      rw [beginRename, typed.editor?_eq]
      exact (changed _).trans (congrArg some same)
  | typeName name =>
      have written : editor.typeName name = { editor with typedName := name } :=
        if_pos typed.naming
      exact ⟨_, (changed _).trans (congrArg some written), rfl, rfl⟩
  | commitRename | cancelRename =>
      exact absurd goesOn (by simp [ClipAction.endsNaming])
  | hover hovered =>
      exact ⟨_, changed _, rfl, rfl⟩
  | beginDrag grip x area =>
      refine ⟨editor, ?_, rfl, rfl⟩
      change (session.beginDrag id grip x area).session.timeline.editors[place]? = _
      rw [beginDrag_refused typed]
      exact typed.isEditor
  | delete given? =>
      refine ⟨editor, ?_, rfl, rfl⟩
      change (session.deleteClip id given?).session.timeline.editors[place]? = _
      rw [deleteClip, typed.editor?_eq]
      exact typed.isEditor

theorem isTyped_asIs
    {known : String}
    (exclusive : session.timeline.IsExclusive)
    (typed : session.timeline.IsTyped id place editor)
    {action : ClipAction}
    (goesOn : ((Deed.asIs known action).onClip? id).any ClipAction.endsNaming = false) :
    ∃ later, (session.performOnClip known action).session.timeline.IsTyped id place later ∧
      later.typedName = ((Deed.asIs known action).typed? id).getD editor.typedName := by
  have step := session.clipStep_performOnClip known action
  have exclusiveLater := step.staysSafe.exclusive exclusive
  by_cases same : known = id
  · subst known
    rw [Deed.onClip?, if_pos rfl] at goesOn
    obtain ⟨later, isLater, state, name⟩ := performOnClip_typed exclusive typed goesOn
    rw [Deed.typed?, Deed.onClip?, if_pos rfl]
    exact ⟨later, typed.stays exclusiveLater step.live isLater state, name⟩
  · have spared := step.editors_of_ne exclusive typed.isLive same
    rw [Deed.typed?, Deed.onClip?, if_neg same]
    exact ⟨editor, typed.stays exclusiveLater step.live (spared.trans typed.isEditor) rfl, rfl⟩

theorem isTyped_doing
    (exclusive : session.timeline.IsExclusive)
    (typed : session.timeline.IsTyped id place editor)
    {deed : Deed}
    (keeps : session.keepsNaming id deed = true) :
    ∃ later, (session.doing deed).timeline.IsTyped id place later ∧
      later.typedName = (deed.typed? id).getD editor.typedName := by
  obtain ⟨goesOn, present⟩ := (Bool.and_eq_true _ _).mp keeps
  rw [Bool.not_eq_true'] at goesOn
  have refreshed (refreshes : deed.refreshes = true) :
      ∃ later, session.refresh.timeline.IsTyped id place later ∧
        later.typedName = editor.typedName := by
    rw [refreshes] at present
    obtain ⟨clip, isClip, same⟩ := List.any_eq_true.mp present
    exact typed.refresh exclusive ⟨clip, isClip, beq_iff_eq.mp same⟩
  cases deed with
  | asIs known action =>
      exact isTyped_asIs exclusive typed goesOn
  | act action =>
      have exclusiveLater := isExclusive_after exclusive action
      cases touches : action.touchesTimeline with
      | false =>
          have silent : (Deed.act action).typed? id = none := by
            cases action <;> first | rfl | exact absurd touches (by simp [Action.touchesTimeline])
          rw [doing, session.timeline_after touches, silent]
          exact ⟨editor, typed, rfl⟩
      | true =>
          cases action with
          | refresh =>
              exact refreshed rfl
          | onClip known action =>
              obtain ⟨current, isCurrent, same⟩ := refreshed rfl
              rw [← same]
              exact isTyped_asIs (exclusive.refresh session.world.clips) isCurrent goesOn
          | pointerMove x =>
              have spared := (typed.isFree exclusive).editors_pointerMove x
              exact ⟨editor, typed.stays exclusiveLater rfl (spared.trans typed.isEditor) rfl, rfl⟩
          | pointerUp =>
              have spared := (typed.isFree exclusive).editors_pointerUp exclusive.paired
              exact ⟨editor, typed.stays exclusiveLater rfl (spared.trans typed.isEditor) rfl, rfl⟩
          | _ =>
              exact absurd touches (by simp [Action.touchesTimeline])

/-!
## The end of a renaming
-/

/-- Commands are sent and nothing else is done, and the editor is at rest. -/
structure SettlesWith
    (outcome : Outcome Unit)
    (place : Nat)
    (editor : ClipEditor)
    (commands : List Command) : Prop where
  sends : outcome.effects = sent commands
  atRest : outcome.session.timeline.IsAtRest place editor

/-- Taking the name over settles the renaming. -/
theorem commitRename_settles
    (exclusive : session.timeline.IsExclusive)
    (plain : session.timeline.IsPlain)
    (typed : session.timeline.IsTyped id place editor) :
    SettlesWith (session.performOnClip id .commitRename) place { editor with state := .idle }
      (if editor.typedName = editor.clip.name then []
        else [.updateClip id editor.typedName editor.clip.startTime editor.clip.endTime]) := by
  have committed :
      editor.commitRename =
        ({ editor with state := .idle },
          if editor.typedName = editor.clip.name then none
          else some (editor.update editor.clip.startTime editor.clip.endTime)) := by
    rw [ClipEditor.commitRename, if_pos typed.naming]
  have performed :
      session.performOnClip id .commitRename =
        ((session.modifyClip id fun editor => editor.commitRename.1).sending
          editor.commitRename.2).done := by
    rw [performOnClip, commitRename, typed.editor?_eq]
  rw [performed]
  constructor
  · change sent editor.commitRename.2.toList = _
    rw [committed, ClipEditor.update, typed.id_eq exclusive]
    split <;> rfl
  · exact isAtRest_modifyClip typed exclusive plain (congrArg Prod.fst committed) rfl rfl

/-- Throwing the name away settles the renaming. -/
theorem cancelRename_settles
    (exclusive : session.timeline.IsExclusive)
    (plain : session.timeline.IsPlain)
    (typed : session.timeline.IsTyped id place editor) :
    SettlesWith (session.performOnClip id .cancelRename) place
      { editor with state := .idle, typedName := editor.clip.name } [] where
  sends := rfl
  atRest := by
    have cancelled :
        editor.cancelRename = { editor with state := .idle, typedName := editor.clip.name } := by
      rw [ClipEditor.cancelRename, if_pos typed.naming]
    exact isAtRest_modifyClip typed exclusive plain cancelled rfl rfl

/-!
## Runs
-/

/-- The renaming goes on through all deeds that do not end it. -/
theorem isTyped_through
    (exclusive : session.timeline.IsExclusive)
    (typed : session.timeline.IsTyped id place editor)
    {deeds : List Deed}
    (keeps : session.isNamedThrough id deeds = true) :
    ∃ later, (session.through deeds).timeline.IsTyped id place later ∧
      later.typedName = typedLast id editor.typedName deeds := by
  induction deeds generalizing session editor with
  | nil =>
      exact ⟨editor, typed, rfl⟩
  | cons deed rest inductionHypothesis =>
      obtain ⟨keepsFirst, keepsRest⟩ := (Bool.and_eq_true _ _).mp keeps
      obtain ⟨next, isNext, name⟩ := isTyped_doing exclusive typed keepsFirst
      rw [typedLast_cons, ← name]
      exact inductionHypothesis (isExclusive_doing exclusive deed) isNext keepsRest

/-- A renaming begins with the name that the clip has. -/
theorem isTyped_of_begins
    (exclusive : session.timeline.IsExclusive)
    (begins : (session.beginRename id).result = true) :
    ∃ place editor,
      session.timeline.place? id = some place ∧
        session.timeline.editors[place]? = some editor ∧
        (session.doing (.asIs id .beginRename)).timeline.IsTyped id place
          { editor with state := .naming, typedName := editor.clip.name } := by
  cases found : session.timeline.editor? id with
  | none =>
      rw [beginRename, found] at begins
      exact absurd begins Bool.false_ne_true
  | some editor =>
      obtain ⟨place, isPlace, isEditor⟩ := Option.bind_eq_some_iff.mp found
      have isLive : (id, place) ∈ session.timeline.live := place?_eq_some isPlace
      have began : editor.beginRename.2 = true := by
        rw [beginRename, found] at begins
        exact begins
      have idle : editor.state = .idle := by
        by_contra busy
        rw [ClipEditor.beginRename, if_neg busy] at began
        exact absurd began Bool.false_ne_true
      have named :
          editor.beginRename.1 =
            { editor with state := .naming, typedName := editor.clip.name } := by
        rw [ClipEditor.beginRename, if_pos idle]
      have step := session.clipStep_performOnClip id .beginRename
      refine ⟨place, editor, isPlace, isEditor, ?_, ?_, rfl⟩
      · exact (step.staysSafe.exclusive exclusive).place?_of_mem (step.live ▸ isLive)
      · change (session.beginRename id).session.timeline.editors[place]? = _
        rw [beginRename, found, ← named]
        exact exclusive.editor_modifyClip isLive isEditor fun editor => editor.beginRename.1

/-- The editor of a clip has the record with which it was brought in line last. -/
theorem latestClip?_through
    (answer? : Option Bool)
    (settings : TimelineSettings)
    (deeds : List Deed)
    (isPlace : ((fresh answer? settings).through deeds).timeline.place? id = some place)
    (isEditor : ((fresh answer? settings).through deeds).timeline.editors[place]? = some editor) :
    latestClip? ((fresh answer? settings).clipsSeen [] deeds) id = some editor.clip := by
  obtain ⟨current, isCurrent, latest⟩ :=
    isInLine_through (isExclusive_new settings) (isInLine_new settings) deeds id place
      (place?_eq_some isPlace)
  obtain rfl := Option.some.inj (isCurrent.symm.trans isEditor)
  exact latest

/--
A renaming begins with the name that the clip has.  From then on anything may be done but ending it,
as long as the clip is there whenever the editors are brought in line.  The editor of the clip keeps
its place and what was typed last, and has the record with which it was brought in line last.
It can be neither dragged nor renamed a second time.  Committing sends one update with the typed name
and the times of that record, or nothing if this is its name, and cancelling sends nothing and
gives the name of the record back.  After either the editor is at rest.
-/
theorem through_keepsTypedName
    (answer? : Option Bool)
    (settings : TimelineSettings)
    (before : List Deed)
    (id : String) :
    let start := (fresh answer? settings).through before
    ((start.beginRename id).result = true →
        ∃ (place : Nat) (editor : ClipEditor),
          latestClip? ((fresh answer? settings).clipsSeen [] before) id = some editor.clip ∧
            (start.doing (.asIs id .beginRename)).timeline.IsTyped id place
              { editor with state := .naming, typedName := editor.clip.name }) ∧
      ∀ place held since,
        start.timeline.IsTyped id place held →
          start.isNamedThrough id since = true →
          let later := start.through since
          ∃ editor,
            later.timeline.IsTyped id place editor ∧
              editor.typedName = typedLast id held.typedName since ∧
              latestClip? ((fresh answer? settings).clipsSeen [] (before ++ since)) id =
                some editor.clip ∧
              (∀ grip x area,
                later.beginDrag id grip x area = later.only (.ok false)) ∧
              (later.beginRename id).result = false ∧
              SettlesWith (later.performOnClip id .commitRename) place
                { editor with state := .idle }
                (if editor.typedName = editor.clip.name then []
                  else [.updateClip id editor.typedName editor.clip.startTime
                    editor.clip.endTime]) ∧
              SettlesWith (later.performOnClip id .cancelRename) place
                { editor with state := .idle, typedName := editor.clip.name } [] := by
  intro start
  have startExclusive : start.timeline.IsExclusive :=
    isExclusive_through (isExclusive_new settings) before
  constructor
  · intro begins
    obtain ⟨place, editor, isPlace, isEditor, typed⟩ := isTyped_of_begins startExclusive begins
    exact ⟨place, editor, latestClip?_through answer? settings before isPlace isEditor, typed⟩
  · intro place held since typed keeps later
    obtain ⟨editor, isTyped, name⟩ := isTyped_through startExclusive typed keeps
    have isRun : later = (fresh answer? settings).through (before ++ since) :=
      (through_append (fresh answer? settings) before since).symm
    have exclusive : later.timeline.IsExclusive := isExclusive_through startExclusive since
    have plain : later.timeline.IsPlain :=
      isRun ▸ isPlain_through (isExclusive_new settings) (isPlain_new settings) (before ++ since)
    have refused : (later.beginRename id).result = false := by
      rw [beginRename, isTyped.editor?_eq]
      simp [ClipEditor.beginRename, isTyped.naming]
    refine ⟨editor, isTyped, name, ?_, beginDrag_refused isTyped, refused,
      commitRename_settles exclusive plain isTyped, cancelRename_settles exclusive plain isTyped⟩
    change later.timeline.IsTyped id place editor at isTyped
    rw [isRun] at isTyped
    exact latestClip?_through answer? settings (before ++ since) isTyped.isPlace isTyped.isEditor

/-- The server renames and moves a clip while a name is typed for it, and a drag is tried as well. -/
theorem through_keepsTypedName_renamed :
    let clip (fields : String) : Message :=
      .text ("\x7b\"clips\": [\x7b\"id\": \"c1\", \"targetId\": 0, " ++ fields ++ "\x7d]\x7d")
    let before : List Deed :=
      [.act (.receive (clip "\"name\": \"walk\", \"startTime\": 2, \"endTime\": 4")),
        .act .refresh]
    let since : List Deed :=
      [.asIs "c1" (.typeName "run"),
        .act (.receive (clip "\"name\": \"jog\", \"startTime\": 3, \"endTime\": 5")),
        .asIs "c1" .beginRename,
        .act (.onClip "c1" (.beginDrag .body (.int 0) (.int 665))),
        .act (.pointerMove (.int 10)),
        .act .pointerUp]
    let start := (fresh none {}).through before
    let named := start.doing (.asIs "c1" .beginRename)
    let later := named.through since
    (start.beginRename "c1").result = true ∧
      named.isNamedThrough "c1" since = true ∧
      (later.performOnClip "c1" .commitRename).effects =
        sent [.updateClip "c1" "run" 3 5] ∧
      (later.performOnClip "c1" .cancelRename).effects = [] ∧
      ∃ place editor,
        (later.performOnClip "c1" .cancelRename).session.timeline.IsAtRest place editor ∧
          editor.typedName = "jog" := by
  intro clip before since start named later
  have begins : (start.beginRename "c1").result = true := by
    decide +kernel
  have keeps : named.isNamedThrough "c1" since = true := by
    decide +kernel
  have isNamed : (fresh none {}).through (before ++ [.asIs "c1" .beginRename]) = named :=
    through_append (fresh none {}) before [.asIs "c1" .beginRename]
  have record :
      (latestClip? ((fresh none {}).clipsSeen []
        ((before ++ [.asIs "c1" .beginRename]) ++ since)) "c1").map
          (fun clip => (clip.name, clip.startTime, clip.endTime)) = some ("jog", 3, 5) := by
    decide +kernel
  obtain ⟨place, held, -, typed⟩ := (through_keepsTypedName none {} before "c1").1 begins
  have goesOn :=
    (through_keepsTypedName none {} (before ++ [.asIs "c1" .beginRename]) "c1").2 place
      { held with state := .naming, typedName := held.clip.name } since
  rw [isNamed] at goesOn
  obtain ⟨editor, -, name, latest, -, -, commit, cancel⟩ := goesOn typed keeps
  rw [latest] at record
  obtain ⟨isName, startTime, endTime⟩ :
      editor.clip.name = "jog" ∧ editor.clip.startTime = 3 ∧ editor.clip.endTime = 5 := by
    simpa using record
  have run : editor.typedName = "run" := name
  rw [run, isName, startTime, endTime] at commit
  exact ⟨begins, keeps, commit.sends, cancel.sends, place, _, cancel.atRest, isName⟩

end Session

end SceneEditor
