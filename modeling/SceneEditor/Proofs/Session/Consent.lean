import SceneEditor.Proofs.Session.Destructive
import SceneEditor.Proofs.Session.Success
import SceneEditor.Proofs.Timeline.Refreshing

namespace SceneEditor

/-!
# Consent

Three actions ask a question: the removal of a point, the removal of a clip, and the beginning of a
new project.  The question is put to a confirm that is given for the very call, or else to that of
the session; where there is neither, the answer is no.
-/

/-- The effect is a question. -/
def Effect.isAsked : Effect → Bool
  | asked _ _ => true
  | _ => false

/-- What is harmless asks nothing. -/
theorem Harmless.filter_isAsked
    {effects : List Effect}
    (harmless : Harmless effects) :
    effects.filter (fun effect => !effect.isAsked) = effects := by
  refine List.filter_eq_self.mpr fun effect member => ?_
  cases effect with
  | asked question answer =>
      exact (harmless _ member).elim
  | published | shown | noted =>
      rfl

namespace Session

namespace Action

/-- The user typed the text of a command himself. -/
def isTyped : Action → Bool
  | .dispatch _ | .submit => true
  | _ => false

/-- The answer that is given for the very call. -/
def given? : Action → Option Bool
  | .deletePoint _ given? | .newProject given? | .onClip _ (.delete given?) => given?
  | _ => none

/-- The action without a confirm of its own, if it is one that asks. -/
def bare? : Action → Option Action
  | .deletePoint id _ => some (.deletePoint id none)
  | .newProject _ => some (.newProject none)
  | .onClip id (.delete _) => some (.onClip id (.delete none))
  | _ => none

/-- What is answered to the question of an action. -/
def answer (session : Session) (action : Action) : Bool :=
  (action.given?.or session.answer?).getD false

/--
What an action asks and does.  The question stands here whoever answers it, also a confirm that is
given for the very call, and also nobody.
-/
def transcript (session : Session) (action : Action) : List Effect :=
  match action.bare? with
  | some bare => ({ session with answer? := some (action.answer session) }.perform bare).effects
  | none => (session.perform action).effects

end Action

/-- The question whether what the text removes shall be removed. -/
inductive Asks (session : Session) : String → String → Prop where
  | point (id : Int) :
      Asks session (deletePointPrompt id) (Command.delete (pointRef id)).wire
  | clip {clip : Clip}
      (isLatest : latestClip? session.world.clips clip.id = some clip) :
      Asks session (ClipEditor.deletePrompt clip) (Command.deleteClipById clip.id).wire
  | project :
      Asks session newProjectPrompt Command.clear.wire

/-- What is done after an answer: the text is published, or nothing is. -/
def consequence (agreed : Bool) (text : String) : List Effect :=
  if agreed then [.published text] else []

theorem expand_clear (catalog : Catalog) :
    Dispatcher.expand catalog Command.clear.wire = .ok Command.clear.wire := by
  have isTrimmed : trimmed Command.clear.wire = Command.clear.wire := by decide
  have noConnect : ConnectCall.ofText? (Text.trim Command.clear.wire.toList) = none := by decide
  have noCollection :
      CollectionCall.ofText? (Text.trim Command.clear.wire.toList) = none := by decide
  simp only [Dispatcher.expand, isTrimmed, ConnectCall.resolveMaterial, noConnect,
    CollectionCall.expandRanges, noCollection]

theorem effects_clear (session : Session) :
    (session.dispatchCommand .clear).effects = [.published Command.clear.wire] := by
  have filled : isBlankText Command.clear.wire = false := by decide
  have given :
      (DispatcherCall.dispatch session.catalog Command.clear.wire).text? =
        some Command.clear.wire := by
    simp only [DispatcherCall.text?, filled, expand_clear]
    rfl
  have isTrimmed := Dispatcher.trimmed_expand (expand_clear session.catalog)
  rw [dispatchCommand, (session.dispatch_of_text? given).2,
    Dispatcher.note_published _ _ isTrimmed]
  rfl

theorem onSuccess_effects
    (outcome : Outcome (Except ε α))
    (change : Session → Session) :
    (outcome.onSuccess change).effects = outcome.effects := by
  unfold Outcome.onSuccess
  split <;> rfl

theorem effects_deletePoint
    (session : Session)
    (id : Int)
    (given? : Option Bool) :
    (session.deletePoint id given?).effects =
      (session.confirm given? (deletePointPrompt id)).2 ++
        consequence (session.confirm given? (deletePointPrompt id)).1
          (Command.delete (pointRef id)).wire :=
  rfl

theorem effects_newProject
    (session : Session)
    (given? : Option Bool) :
    (session.newProject given?).effects =
      (session.confirm given? newProjectPrompt).2 ++
        consequence (session.confirm given? newProjectPrompt).1 Command.clear.wire := by
  unfold newProject
  rcases session.confirm given? newProjectPrompt with ⟨agreed, asked⟩
  cases agreed with
  | false =>
      exact (List.append_nil asked).symm
  | true =>
      change asked ++ (Outcome.onSuccess _ _).effects = _
      rw [onSuccess_effects, effects_clear]
      rfl

theorem effects_deleteClip
    {session : Session}
    {id : String}
    {editor : ClipEditor}
    (found : session.timeline.editor? id = some editor)
    (given? : Option Bool) :
    (session.deleteClip id given?).effects =
      (session.confirm given? (ClipEditor.deletePrompt editor.clip)).2 ++
        consequence (session.confirm given? (ClipEditor.deletePrompt editor.clip)).1
          (Command.deleteClipById editor.clip.id).wire := by
  unfold deleteClip
  rw [found]
  rfl

/-- Nothing is asked about a clip that is not shown. -/
theorem effects_deleteClip_missing
    {session : Session}
    {id : String}
    (missing : session.timeline.editor? id = none)
    (given? : Option Bool) :
    (session.deleteClip id given?).effects = [] := by
  unfold deleteClip
  rw [missing]
  rfl

/-- What was given counts before the answer that is set, and silence is a no. -/
theorem confirm_fst
    (session : Session)
    (given? : Option Bool)
    (question : String) :
    (session.confirm given? question).1 = (given?.or session.answer?).getD false := by
  unfold confirm
  cases given? with
  | some answer =>
      rfl
  | none =>
      cases session.answer? with
      | some answer =>
          rfl
      | none =>
          rfl

/-- Only the confirm of the session is seen to be asked. -/
theorem confirm_snd
    (session : Session)
    (given? : Option Bool)
    (question : String) :
    (session.confirm given? question).2 =
      if given?.isSome then [] else session.answer?.toList.map (.asked question) := by
  unfold confirm
  cases given? with
  | some answer =>
      rfl
  | none =>
      cases session.answer? with
      | some answer =>
          rfl
      | none =>
          rfl

/-!
## What an action asks
-/

namespace Action

/-- The question of an action, and the text that is published after a yes. -/
def question? (session : Session) : Action → Option (String × String)
  | .deletePoint id _ => some (deletePointPrompt id, (Command.delete (pointRef id)).wire)
  | .newProject _ => some (newProjectPrompt, Command.clear.wire)
  | .onClip id (.delete _) =>
      (session.refresh.timeline.editor? id).map fun editor =>
        (ClipEditor.deletePrompt editor.clip, (Command.deleteClipById editor.clip.id).wire)
  | _ => none

end Action

theorem isMild_performOnClip
    (session : Session)
    (id : String)
    {action : ClipAction}
    (asksNothing : (Action.onClip id action).bare? = none) :
    (session.performOnClip id action).IsMild session := by
  cases action with
  | commitRename =>
      exact (session.isMild_commitRename id).done
  | delete given? =>
      exact absurd asksNothing (by simp [Action.bare?])
  | beginRename =>
      unfold performOnClip beginRename
      dsimp only
      split
      · exact ⟨harmless_nil, rfl⟩
      · exact ⟨harmless_nil, rfl⟩
  | typeName | cancelRename | hover | beginDrag =>
      exact ⟨harmless_nil, rfl⟩

/-- An action is mild unless it is typed, asks a question, or gives the session another confirm. -/
theorem isMild_perform
    (session : Session)
    {action : Action}
    (notTyped : action.isTyped = false)
    (asksNothing : action.bare? = none)
    (kept : ∀ answer?, action ≠ .answerWith answer?) :
    (session.perform action).IsMild session := by
  cases action with
  | dispatch | submit =>
      exact absurd notTyped (by simp [Action.isTyped])
  | deletePoint | newProject =>
      exact absurd asksNothing (by simp [Action.bare?])
  | answerWith answer? =>
      exact absurd rfl (kept answer?)
  | type | browseUp | browseDown | accept =>
      exact ⟨harmless_nil, rfl⟩
  | addMaterial | disarm | refresh | pointerUp =>
      exact ⟨harmless_nil, rfl⟩
  | receive message =>
      exact (session.isMild_receive message).done
  | editPoint id x y z =>
      exact (session.isMild_editPoint id x y z).done
  | editColor id color =>
      exact (session.isMild_editColor id color).done
  | addToCollection name range =>
      exact (session.isMild_addToCollection name range).done
  | removeFromCollection name id =>
      exact (session.isMild_removeFromCollection name id).done
  | createCollection name =>
      exact (session.isMild_createCollection name).done
  | renameCollection oldName newName =>
      exact (session.isMild_renameCollection oldName newName).done
  | save =>
      exact session.isMild_save.done
  | saveAs name adopt =>
      exact (session.isMild_saveAs name adopt).done
  | loadProject id name? =>
      exact (session.isMild_loadProject id name?).done
  | updateMaterial id field value =>
      exact (session.isMild_updateMaterial id field value).done
  | toggleBuild material =>
      exact (session.isMild_toggleBuild material).done
  | selectBuild id =>
      exact (session.isMild_selectBuild id).done
  | click id =>
      exact (session.isMild_click id).done
  | press key control focused =>
      exact (session.isMild_press key control focused).done
  | togglePlay =>
      exact session.isMild_togglePlay.done
  | stop =>
      exact ⟨harmless_sent (List.forall_mem_singleton.mpr rfl), rfl⟩
  | seek time =>
      unfold perform
      dsimp only
      split
      · exact (session.isMild_seek _).done
      · exact ⟨harmless_nil, rfl⟩
  | onClip id action =>
      have mild := session.refresh.isMild_performOnClip id asksNothing
      exact ⟨mild.harmless, mild.answer?⟩
  | pointerMove x =>
      exact ⟨harmless_sent (session.timeline.quiet_pointerMove x), rfl⟩

/-- What asks nothing sends nothing destructive. -/
theorem harmless_perform
    (session : Session)
    {action : Action}
    (notTyped : action.isTyped = false)
    (asksNothing : action.bare? = none) :
    Harmless (session.perform action).effects := by
  by_cases kept : ∀ answer?, action ≠ .answerWith answer?
  · exact (session.isMild_perform notTyped asksNothing kept).harmless
  · push Not at kept
    obtain ⟨answer?, rfl⟩ := kept
    exact harmless_nil

/-- The effects of an action that asks are its question and what the answer brings. -/
theorem effects_of_question
    {session : Session}
    {action : Action}
    {question text : String}
    (asks : action.question? session = some (question, text)) :
    (session.perform action).effects =
      (session.confirm action.given? question).2 ++
        consequence ((action.given?.or session.answer?).getD false) text := by
  rw [← session.confirm_fst action.given? question]
  cases action with
  | deletePoint id given? =>
      obtain ⟨rfl, rfl⟩ := Prod.mk.inj (Option.some.inj asks)
      exact session.effects_deletePoint id given?
  | newProject given? =>
      obtain ⟨rfl, rfl⟩ := Prod.mk.inj (Option.some.inj asks)
      exact session.effects_newProject given?
  | onClip id action =>
      cases action with
      | delete given? =>
          obtain ⟨editor, found, same⟩ := Option.map_eq_some_iff.mp asks
          obtain ⟨rfl, rfl⟩ := Prod.mk.inj same
          exact effects_deleteClip found given?
      | _ =>
          exact absurd asks (by simp [Action.question?])
  | _ =>
      exact absurd asks (by simp [Action.question?])

/-!
## Transcripts
-/

/-- An action asks and does what its transcript says, whoever answers. -/
theorem transcript_of_question
    {session : Session}
    {action : Action}
    {question text : String}
    (asks : action.question? session = some (question, text)) :
    action.transcript session =
      .asked question (action.answer session) :: consequence (action.answer session) text := by
  let heard : Session := { session with answer? := some (action.answer session) }
  have asked
      {bare : Action}
      (isBare : action.bare? = some bare)
      (sameQuestion : bare.question? heard = some (question, text))
      (noneGiven : bare.given? = none) :
      action.transcript session =
        .asked question (action.answer session) :: consequence (action.answer session) text := by
    have performed := effects_of_question sameQuestion
    rw [confirm_snd, noneGiven] at performed
    rw [Action.transcript, isBare]
    exact performed
  cases action with
  | deletePoint | newProject =>
      exact asked rfl asks rfl
  | onClip id action =>
      cases action with
      | delete given? =>
          exact asked rfl asks rfl
      | _ =>
          exact absurd asks (by simp [Action.question?])
  | _ =>
      exact absurd asks (by simp [Action.question?])

/-- An action that asks nothing has its effects as a transcript, and they are harmless. -/
theorem transcript_of_noQuestion
    {session : Session}
    {action : Action}
    (notTyped : action.isTyped = false)
    (asksNothing : action.question? session = none) :
    action.transcript session = (session.perform action).effects ∧
      Harmless (session.perform action).effects := by
  cases isBare : action.bare? with
  | none =>
      rw [Action.transcript, isBare]
      exact ⟨rfl, session.harmless_perform notTyped isBare⟩
  | some bare =>
      cases action with
      | onClip id action =>
          cases action with
          | delete given? =>
              have missing : session.refresh.timeline.editor? id = none :=
                Option.map_eq_none_iff.mp asksNothing
              -- the confirm of the session does not matter where there is no clip to ask about
              have silent
                  {heard : Session}
                  (same : heard.refresh.timeline = session.refresh.timeline)
                  (given? : Option Bool) :
                  (heard.refresh.deleteClip id given?).effects = [] :=
                effects_deleteClip_missing (same ▸ missing) given?
              have noEffect : (session.perform (.onClip id (.delete given?))).effects = [] :=
                @silent session rfl given?
              have noQuestion : (Action.onClip id (.delete given?)).transcript session = [] :=
                @silent { session with answer? := some _ } rfl none
              rw [noEffect, noQuestion]
              exact ⟨rfl, harmless_nil⟩
          | _ =>
              exact absurd isBare (by simp [Action.bare?])
      | deletePoint | newProject =>
          exact absurd asksNothing (by simp [Action.question?])
      | _ =>
          exact absurd isBare (by simp [Action.bare?])

/-- The effects are the transcript, but for a question that the session did not put itself. -/
theorem effects_of_transcript
    {session : Session}
    {action : Action}
    (notTyped : action.isTyped = false) :
    (session.perform action).effects =
      if action.given?.isNone && session.answer?.isSome then action.transcript session
      else (action.transcript session).filter fun effect => !effect.isAsked := by
  cases asks : action.question? session with
  | none =>
      obtain ⟨same, harmless⟩ := transcript_of_noQuestion notTyped asks
      rw [same, harmless.filter_isAsked, ite_self]
  | some both =>
      rcases both with ⟨question, text⟩
      rw [transcript_of_question asks, effects_of_question asks, confirm_snd, Action.answer]
      cases action.given? with
      | some answer =>
          cases answer with
          | true =>
              rfl
          | false =>
              rfl
      | none =>
          cases session.answer? with
          | some answer =>
              rfl
          | none =>
              rfl

/-- What is asked is whether the very thing shall be removed that a yes removes. -/
theorem asks_of_question
    {session : Session}
    (exclusive : session.timeline.IsExclusive)
    {action : Action}
    {question text : String}
    (asks : action.question? session = some (question, text)) :
    session.Asks question text := by
  cases action with
  | deletePoint id given? =>
      obtain ⟨rfl, rfl⟩ := Prod.mk.inj (Option.some.inj asks)
      exact .point id
  | newProject given? =>
      obtain ⟨rfl, rfl⟩ := Prod.mk.inj (Option.some.inj asks)
      exact .project
  | onClip id action =>
      cases action with
      | delete given? =>
          obtain ⟨editor, found, same⟩ := Option.map_eq_some_iff.mp asks
          obtain ⟨rfl, rfl⟩ := Prod.mk.inj same
          have isLatest := exclusive.latestClip?_of_editor? found
          obtain ⟨-, rfl⟩ := mem_of_latestClip? isLatest
          exact .clip isLatest
      | _ =>
          exact absurd asks (by simp [Action.question?])
  | _ =>
      exact absurd asks (by simp [Action.question?])

/-- What was refused leaves the lines, the labels and the name of the project alone. -/
structure KeepsProject (before after : Session) : Prop where
  dispatcher : after.dispatcher = before.dispatcher
  projectName? : after.projectName? = before.projectName?

/-- The removal of a clip waits for the server: the editors are brought in line, and no more. -/
theorem after_delete
    (session : Session)
    (id : String)
    (given? : Option Bool) :
    session.after (.onClip id (.delete given?)) = session.refresh := by
  change (session.refresh.deleteClip id given?).session = session.refresh
  unfold deleteClip
  split
  · rfl
  · rfl

/-- A question that is answered with no keeps the project. -/
theorem keepsProject_of_refused
    {session : Session}
    {action : Action}
    {question text : String}
    (asks : action.question? session = some (question, text))
    (refused : action.answer session = false) :
    KeepsProject session (session.after action) := by
  cases action with
  | deletePoint id given? =>
      exact ⟨rfl, rfl⟩
  | newProject given? =>
      have denied : (session.confirm given? newProjectPrompt).1 = false :=
        (session.confirm_fst given? newProjectPrompt).trans refused
      have same : session.after (.newProject given?) = session := by
        change (session.newProject given?).session = session
        unfold newProject
        dsimp only
        rw [denied]
        rfl
      exact ⟨congrArg Session.dispatcher same, congrArg Session.projectName? same⟩
  | onClip id action =>
      cases action with
      | delete given? =>
          rw [after_delete]
          exact ⟨rfl, rfl⟩
      | _ =>
          exact absurd asks (by simp [Action.question?])
  | _ =>
      exact absurd asks (by simp [Action.question?])

/-!
## The confirm of the session
-/

theorem answer?_submit (session : Session) :
    session.submit.session.answer? = session.answer? := by
  have dispatched := session.answer?_dispatch session.prompt.text
  unfold submit
  dsimp only
  split
  · exact dispatched
  · exact dispatched

theorem answer?_newProject
    (session : Session)
    (given? : Option Bool) :
    (session.newProject given?).session.answer? = session.answer? := by
  have cleared := session.answer?_dispatch Command.clear.wire
  unfold newProject
  dsimp only
  split
  · unfold Outcome.onSuccess
    split
    · exact cleared
    · exact cleared
  · rfl

/-- The confirm of a session is the one that it was built with, unless it is given another one. -/
theorem answer?_after
    (session : Session)
    {action : Action}
    (kept : ∀ answer?, action ≠ .answerWith answer?) :
    (session.after action).answer? = session.answer? := by
  cases isTyped : action.isTyped with
  | false =>
      cases isBare : action.bare? with
      | none =>
          exact (session.isMild_perform isTyped isBare kept).answer?
      | some bare =>
          cases action with
          | deletePoint id given? =>
              rfl
          | newProject given? =>
              exact session.answer?_newProject given?
          | onClip id action =>
              cases action with
              | delete given? =>
                  rw [after_delete]
                  rfl
              | _ =>
                  exact absurd isBare (by simp [Action.bare?])
          | _ =>
              exact absurd isBare (by simp [Action.bare?])
  | true =>
      cases action with
      | dispatch line =>
          exact session.answer?_dispatch line
      | submit =>
          exact session.answer?_submit
      | _ =>
          exact absurd isTyped (by simp [Action.isTyped])

/-- The answer that is set stays through all actions that do not set another. -/
theorem answer?_run
    (session : Session)
    {actions : List Action}
    (kept : ∀ answer?, .answerWith answer? ∉ actions) :
    (session.run actions).answer? = session.answer? := by
  have keeps
      (later : Session)
      (action : Action)
      (member : action ∈ actions)
      (same : later.answer? = session.answer?) :
      (later.after action).answer? = session.answer? := by
    have other (answer? : Option Bool) : action ≠ .answerWith answer? := by
      rintro rfl
      exact kept answer? member
    exact (later.answer?_after other).trans same
  exact run_induction keeps rfl

end Session
end SceneEditor
