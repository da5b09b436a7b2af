import SceneEditor.Proofs.Panel.Turns
import SceneEditor.Proofs.Session.Consent
import SceneEditor.Proofs.Session.Interaction

namespace SceneEditor

/-!
# Consent at the prompt

Whatever the user does in the panels and types behind a colon, nothing is removed without a yes.  A
line asks and does what its one action asks and does, and then shows some lines.
-/

namespace Panel

open Session (Action)

/-- An attempt tells of its result behind its effects. -/
theorem attempted_effects
    (outcome : Outcome (Except NumberError α))
    (lines : α → List String) :
    ∃ told, (attempted outcome lines).effects = outcome.effects ++ shown told := by
  unfold attempted
  split
  · exact ⟨_, rfl⟩
  · exact ⟨[], (List.append_nil _).symm⟩

/-- An edit of a material tells of its result behind its effects. -/
theorem updateMaterial_effects
    (session : Session)
    (id field value : String) :
    ∃ told, (updateMaterial session id field value).effects =
      (session.updateMaterial id field (.string value)).effects ++ shown told := by
  unfold updateMaterial
  dsimp only
  split
  · exact ⟨_, rfl⟩
  · exact ⟨[], (List.append_nil _).symm⟩
  · exact ⟨[], (List.append_nil _).symm⟩

/-- What is done at the prompt: nothing, or what one action asks and does; then lines are shown. -/
inductive Carries (session : Session) (agrees : Bool) : List Action → List Effect → Prop where
  | nothing (told : List String) :
      Carries session agrees [] (shown told)
  | action {action : Action} {effects : List Effect}
      (notTyped : action.isTyped = false)
      (isAnswered : action.question? session ≠ none → action.given? = some agrees)
      (told : List String)
      (does : effects = action.transcript session ++ shown told) :
      Carries session agrees [action] effects

/-- A question that is put at the prompt is the one of the action, which is given the answer. -/
theorem carries_of_question
    {session : Session}
    {action : Action}
    {question text : String}
    {agrees : Bool}
    {outcome : Outcome Result}
    (notTyped : action.isTyped = false)
    (asks : action.question? session = some (question, text))
    (given : action.given? = some agrees)
    (told : ∃ told, outcome.effects = (session.perform action).effects ++ shown told) :
    Carries session agrees [action] (asking question agrees outcome).effects := by
  obtain ⟨told, effects⟩ := told
  refine .action notTyped (fun _ => given) told ?_
  have answer : action.answer session = agrees := by
    rw [Action.answer, given]
    rfl
  -- the operation is given the answer, so that the one question is that of the line
  have performed := Session.effects_of_question asks
  rw [Session.confirm_snd, given] at performed
  rw [Session.transcript_of_question asks, answer, List.cons_append]
  change Effect.asked question agrees :: outcome.effects = _
  rw [effects, performed]
  rfl

/-- Showing lines carries no action. -/
theorem carries_showingAll
    (session : Session)
    (agrees : Bool)
    (lines : Except NumberError (List String)) :
    Carries session agrees [] (showingAll session lines).effects := by
  cases lines with
  | ok lines =>
      exact .nothing lines
  | error error =>
      exact .nothing []

/-- A clip that is not there is neither asked about nor removed. -/
theorem carries_deleteClip
    (session : Session)
    (id : String)
    (agrees : Bool) :
    Carries session agrees [.onClip id (.delete (some agrees))]
      (deleteClip session id agrees).effects := by
  unfold deleteClip
  dsimp only
  cases found : session.refresh.timeline.editor? id with
  | none =>
      have asksNothing :
          (Action.onClip id (.delete (some agrees))).question? session = none :=
        Option.map_eq_none_iff.mpr found
      have silent : (session.perform (.onClip id (.delete (some agrees)))).effects = [] :=
        Session.effects_deleteClip_missing found (some agrees)
      obtain ⟨same, -⟩ := Session.transcript_of_noQuestion rfl asksNothing
      refine .action rfl (fun _ => rfl) ["no clip " ++ id] ?_
      rw [same, silent]
      rfl
  | some editor =>
      have asks :
          (Action.onClip id (.delete (some agrees))).question? session =
            some (ClipEditor.deletePrompt editor.clip,
              (Command.deleteClipById editor.clip.id).wire) :=
        Option.map_eq_some_iff.mpr ⟨editor, found, rfl⟩
      exact carries_of_question rfl asks rfl ⟨[], rfl⟩

/-- An order asks and does what its action does. -/
theorem carries_perform
    (session : Session)
    (agrees : Bool)
    (order : Order) :
    Carries session agrees (order.actions session agrees)
      (perform session agrees order).effects := by
  cases order with
  | help | showPoints =>
      exact .nothing _
  | showMaterials | showBill =>
      exact carries_showingAll session agrees _
  | togglePlay | stop | addMaterial | recolor | build | click | showClips =>
      exact .action rfl (absurd rfl) _ rfl
  | movePoint | seek | undo | redo | save | saveAs | load =>
      obtain ⟨told, effects⟩ := attempted_effects _ _
      exact .action rfl (absurd rfl) told effects
  | updateMaterial id field value =>
      obtain ⟨told, effects⟩ := updateMaterial_effects session id field value
      exact .action rfl (absurd rfl) told effects
  | deletePoint id =>
      exact carries_of_question rfl rfl rfl ⟨_, rfl⟩
  | newProject =>
      exact carries_of_question rfl rfl rfl (attempted_effects _ _)
  | deleteClip id =>
      exact carries_deleteClip session id agrees

/-- Lines that are shown behind the effects carry nothing more. -/
theorem Carries.thenShown
    {session : Session}
    {agrees : Bool}
    {actions : List Action}
    {effects : List Effect}
    (carries : Carries session agrees actions effects)
    (lines : List String) :
    Carries session agrees actions (effects ++ shown lines) := by
  cases carries with
  | nothing told =>
      have both : shown told ++ shown lines = shown (told ++ lines) := List.map_append.symm
      rw [both]
      exact .nothing _
  | action notTyped isAnswered told does =>
      have both : shown told ++ shown lines = shown (told ++ lines) := List.map_append.symm
      refine .action notTyped isAnswered (told ++ lines) ?_
      rw [does, List.append_assoc, both]

/-- Finishing carries what the outcome carries. -/
theorem carries_finish
    {session : Session}
    {agrees : Bool}
    {actions : List Action}
    {outcome : Outcome Result}
    (carries : Carries session agrees actions outcome.effects) :
    Carries session agrees actions (finish outcome).effects := by
  unfold finish
  split
  · exact carries
  · exact carries
  · exact carries.thenShown _

/-- The line is the text of a command. -/
def Line.isTyped : Line → Bool
  | .command _ => true
  | _ => false

/-- A line carries the actions that it is read as. -/
theorem carries_handle
    (session : Session)
    (agrees : Bool)
    {line : String}
    (notTyped : (Line.read line).isTyped = false) :
    Carries session agrees ((Line.read line).actions session agrees)
      (handle session agrees line).effects := by
  unfold handle
  cases read : Line.read line with
  | command text =>
      rw [read] at notTyped
      exact absurd notTyped (by simp [Line.isTyped])
  | blank | quit =>
      exact .nothing []
  | unknown name =>
      exact carries_finish (.nothing _)
  | faulty error =>
      exact carries_finish (.nothing [])
  | order given =>
      exact carries_finish (carries_perform session agrees given)

/-!
## Inputs
-/

/-- What the user does in a panel, or a line that he types with the answer to its question. -/
inductive Input where
  | action (action : Action)
  | line (agrees : Bool) (text : String)
  deriving Repr

namespace Input

/-- The session behind an input. -/
def after (session : Session) : Input → Session
  | action given => session.after given
  | line agrees text => (handle session agrees text).session

/-- What an input shows, asks and sends. -/
def effects (session : Session) : Input → List Effect
  | action given => (session.perform given).effects
  | line agrees text => (handle session agrees text).effects

/-- What an input asks and does; a question stands here whoever answers it. -/
def transcript (session : Session) : Input → List Effect
  | action given => given.transcript session
  | line agrees text => (handle session agrees text).effects

/-- What is answered to the question of an input. -/
def answer (session : Session) : Input → Bool
  | action given => given.answer session
  | line agrees _ => agrees

/-- The user typed the text of a command himself. -/
def isTyped : Input → Bool
  | action given => given.isTyped
  | line _ text => (Line.read text).isTyped

/-- An answer is given for this very input. -/
def isAnswered : Input → Bool
  | action given => given.given?.isSome
  | line _ _ => true

/-- The question is put to the user, and not to a confirm of the very call or to nobody. -/
def isHeard (session : Session) : Input → Bool
  | action given => given.given?.isNone && session.answer?.isSome
  | line _ _ => true

/--
An input asks nothing and removes nothing, or it asks one question first; after a yes the text is
published that removes what was asked about, and after a no nothing is published or changed.
-/
inductive Consents (session : Session) (input : Input) : Prop where
  | harmless (harmless : Harmless (input.transcript session))
  | asks {question text : String} (told : List String)
      (about : session.Asks question text)
      (transcript :
        input.transcript session =
          .asked question (input.answer session) ::
            (Session.consequence (input.answer session) text ++ shown told))
      (kept : input.answer session = false → session.KeepsProject (input.after session))

theorem harmless_shown (lines : List String) :
    Harmless (shown lines) :=
  List.forall_mem_map.mpr fun _ _ => trivial

/-- An action asks before it sends anything destructive. -/
theorem consents_action
    {session : Session}
    (exclusive : session.timeline.IsExclusive)
    {action : Action}
    (notTyped : action.isTyped = false) :
    (Input.action action).Consents session := by
  cases asks : action.question? session with
  | none =>
      obtain ⟨same, harmless⟩ := Session.transcript_of_noQuestion notTyped asks
      refine .harmless ?_
      rw [transcript, same]
      exact harmless
  | some both =>
      rcases both with ⟨question, text⟩
      have about := Session.asks_of_question exclusive asks
      refine .asks [] about ?_ (Session.keepsProject_of_refused asks)
      rw [transcript, Session.transcript_of_question asks]
      exact congrArg _ (List.append_nil _).symm

/-- A line consents as its action does, which is given the answer. -/
theorem consents_line
    {session : Session}
    (exclusive : session.timeline.IsExclusive)
    {agrees : Bool}
    {text : String}
    (notTyped : (Line.read text).isTyped = false) :
    (line agrees text).Consents session := by
  have carries := carries_handle session agrees notTyped
  have reached := handle_session session agrees text
  -- variables stand for what the line does, since the cases are told apart by it
  generalize (Line.read text).actions session agrees = actions at carries reached
  generalize effects : (handle session agrees text).effects = done at carries
  cases carries with
  | nothing told =>
      refine .harmless ?_
      rw [transcript, effects]
      exact harmless_shown told
  | @action action _ notTyped isAnswered told does =>
      cases asks : action.question? session with
      | none =>
          obtain ⟨same, harmless⟩ := Session.transcript_of_noQuestion notTyped asks
          refine .harmless ?_
          rw [transcript, effects, does, same]
          exact List.forall_mem_append.mpr ⟨harmless, harmless_shown told⟩
      | some both =>
          rcases both with ⟨question, removing⟩
          have given : action.given? = some agrees := isAnswered (by simp [asks])
          have answered : action.answer session = agrees := by
            rw [Action.answer, given]
            rfl
          refine .asks told (Session.asks_of_question exclusive asks) ?_ ?_
          · rw [transcript, effects, does, Session.transcript_of_question asks, answered]
            rfl
          · intro refused
            have kept := Session.keepsProject_of_refused asks (answered.trans refused)
            rw [after, reached]
            exact kept

/-- The effects of an input are its transcript, but for a question that the user did not hear. -/
theorem effects_eq
    (session : Session)
    {input : Input}
    (notTyped : input.isTyped = false) :
    input.effects session =
      if input.isHeard session then input.transcript session
      else (input.transcript session).filter fun effect => !effect.isAsked := by
  cases input with
  | action given =>
      exact Session.effects_of_transcript notTyped
  | line agrees text =>
      rfl

/-- Where nobody answers, the answer is no. -/
theorem answer_of_nobody
    {session : Session}
    {input : Input}
    (nobody : session.answer? = none)
    (notAnswered : input.isAnswered = false) :
    input.answer session = false := by
  cases input with
  | action given =>
      have noneGiven : given.given? = none :=
        Option.isNone_iff_eq_none.mp (Option.isSome_eq_false_iff.mp notAnswered)
      rw [answer, Action.answer, noneGiven, nobody]
      rfl
  | line agrees text =>
      exact absurd notAnswered (by simp [isAnswered])

/-- An input asks before it sends anything destructive. -/
theorem consents
    {session : Session}
    (exclusive : session.timeline.IsExclusive)
    {input : Input}
    (notTyped : input.isTyped = false) :
    input.Consents session := by
  cases input with
  | action given =>
      exact consents_action exclusive notTyped
  | line agrees text =>
      exact consents_line exclusive notTyped

/-- What removes something is published behind the question about it, which was answered yes. -/
theorem Consents.of_published
    {session : Session}
    {input : Input}
    (consents : input.Consents session)
    {text : String}
    (isPublished : .published text ∈ input.transcript session)
    (destroys : LineText.destroys text = true) :
    input.answer session = true ∧
      ∃ question told, session.Asks question text ∧
        input.transcript session = .asked question true :: .published text :: shown told := by
  cases consents with
  | harmless harmless =>
      exact absurd destroys (Bool.eq_false_iff.mp (harmless _ isPublished))
  | asks told about transcript kept =>
      cases answered : input.answer session with
      | false =>
          rw [transcript, answered] at isPublished
          exact absurd isPublished (by simp [Session.consequence, shown])
      | true =>
          rw [transcript, answered] at isPublished
          obtain rfl : text = _ := by
            simpa [Session.consequence, shown] using isPublished
          refine ⟨rfl, _, told, about, ?_⟩
          rw [transcript, answered]
          rfl

/-- A question is followed by the consequence of its answer, and by nothing else. -/
theorem Consents.of_asked
    {session : Session}
    {input : Input}
    (consents : input.Consents session)
    {question : String}
    {answered : Bool}
    (isAsked : .asked question answered ∈ input.transcript session) :
    (∃ text told, session.Asks question text ∧
        input.transcript session =
          .asked question answered :: (Session.consequence answered text ++ shown told)) ∧
      (answered = false → session.KeepsProject (input.after session)) := by
  cases consents with
  | harmless harmless =>
      exact (harmless _ isAsked).elim
  | @asks first text told about transcript kept =>
      have same : question = first ∧ answered = input.answer session := by
        rw [transcript] at isAsked
        rcases List.mem_cons.mp isAsked with isFirst | later
        · exact Effect.asked.inj isFirst
        · cases input.answer session <;>
            exact absurd later (by simp [Session.consequence, shown])
      obtain ⟨rfl, rfl⟩ := same
      exact ⟨⟨text, told, about, transcript⟩, kept⟩

end Input

/-- No line gives the session another confirm. -/
theorem Line.answerWith_notMem_actions
    (line : Line)
    (session : Session)
    (agrees : Bool)
    (answer? : Option Bool) :
    .answerWith answer? ∉ line.actions session agrees := by
  cases line with
  | order given =>
      cases given <;> simp [Line.actions, Order.actions]
  | blank | command | quit | unknown | faulty =>
      simp [Line.actions]

end Panel

namespace Session

/-- Take one input after another. -/
def takeInputs (session : Session) (inputs : List Panel.Input) : Session :=
  inputs.foldl Panel.Input.after session

/-- What inputs reach is reached by a run. -/
theorem exists_run_takeInputs
    (session : Session)
    (inputs : List Panel.Input) :
    ∃ actions, session.takeInputs inputs = session.run actions := by
  induction inputs generalizing session with
  | nil =>
      exact ⟨[], rfl⟩
  | cons input rest inductionHypothesis =>
      obtain ⟨later, reachedLater⟩ := inductionHypothesis (input.after session)
      cases input with
      | action given =>
          exact ⟨given :: later, reachedLater⟩
      | line agrees text =>
          refine ⟨(Panel.Line.read text).actions session agrees ++ later, ?_⟩
          rw [session.run_append, ← Panel.handle_session]
          exact reachedLater

/-- The answer that is set stays through all inputs that do not set another. -/
theorem answer?_takeInputs
    (session : Session)
    {inputs : List Panel.Input}
    (kept : ∀ answer?, .action (.answerWith answer?) ∉ inputs) :
    (session.takeInputs inputs).answer? = session.answer? := by
  induction inputs generalizing session with
  | nil =>
      rfl
  | cons input rest inductionHypothesis =>
      have later := inductionHypothesis (input.after session) fun answer? member =>
        kept answer? (List.mem_cons_of_mem input member)
      refine later.trans ?_
      cases input with
      | action given =>
          refine session.answer?_after fun answer? same => ?_
          subst same
          exact kept answer? List.mem_cons_self
      | line agrees text =>
          change (Panel.handle session agrees text).session.answer? = _
          rw [Panel.handle_session]
          exact session.answer?_run fun answer? =>
            (Panel.Line.read text).answerWith_notMem_actions session agrees answer?

end Session

namespace Panel

/--
Whatever was done and typed before, and whatever is done or typed now, unless it is the text of a
command: what removes a point, a clip or the project is published only right behind the one question
whether that very thing shall be removed, answered yes, and after a yes it is published.  After a no
nothing is published, and the history and the name of the project stay.  A session that was built
without a confirm removes nothing unless an answer is given for the very input.  What the session
records is all of this, but for a question that is put to a confirm of the very call or to nobody.
-/
theorem takeInputs_consents
    (answer? : Option Bool)
    (settings : TimelineSettings)
    (inputs : List Input)
    {input : Input}
    (notTyped : input.isTyped = false) :
    let session := (Session.fresh answer? settings).takeInputs inputs
    (∀ text, .published text ∈ input.effects session → LineText.destroys text = true →
        input.answer session = true ∧
          ∃ question told, session.Asks question text ∧
            input.transcript session =
              .asked question true :: .published text :: shown told) ∧
      (∀ question, .asked question true ∈ input.transcript session →
        ∃ text told, session.Asks question text ∧
          input.transcript session = .asked question true :: .published text :: shown told) ∧
      (∀ question, .asked question false ∈ input.transcript session →
        (∀ text, .published text ∉ input.effects session) ∧
          session.KeepsProject (input.after session)) ∧
      (answer? = none →
        (∀ given?, .action (.answerWith given?) ∉ inputs) →
          input.isAnswered = false →
            ∀ text, .published text ∈ input.effects session →
              LineText.destroys text = false) ∧
      input.effects session =
        if input.isHeard session then input.transcript session
        else (input.transcript session).filter fun effect => !effect.isAsked := by
  intro session
  have exclusive : session.timeline.IsExclusive := by
    obtain ⟨actions, reached⟩ := (Session.fresh answer? settings).exists_run_takeInputs inputs
    rw [show session = _ from reached]
    exact Session.isExclusive_run (Timeline.isExclusive_new settings) actions
  have effects := input.effects_eq session notTyped
  have published
      {text : String}
      (member : .published text ∈ input.effects session) :
      .published text ∈ input.transcript session := by
    rw [effects] at member
    split at member
    · exact member
    · exact List.mem_of_mem_filter member
  have consents := input.consents exclusive notTyped
  have removes
      (text : String)
      (member : .published text ∈ input.effects session)
      (destroys : LineText.destroys text = true) :=
    consents.of_published (published member) destroys
  refine ⟨removes, ?_, ?_, ?_, effects⟩
  · intro question agreed
    exact (consents.of_asked agreed).1
  · intro question refused
    obtain ⟨⟨removing, told, -, transcript⟩, kept⟩ := consents.of_asked refused
    refine ⟨fun text member => ?_, kept rfl⟩
    have member := published member
    rw [transcript] at member
    exact absurd member (by simp [Session.consequence, shown])
  · intro noConfirm never notAnswered text member
    by_contra destroys
    have nobody : session.answer? = none :=
      ((Session.fresh answer? settings).answer?_takeInputs never).trans noConfirm
    obtain ⟨agreed, -⟩ := removes text member (Bool.eq_true_of_not_eq_false destroys)
    exact absurd agreed (by simp [Input.answer_of_nobody nobody notAnswered])

/-- A new project is refused; then the clip is removed by the last of its records, after a yes. -/
theorem takeInputs_consents_clip :
    let clips : Message :=
      .text ("\x7b\"clips\": ["
        ++ "\x7b\"id\": \"c1\", \"targetId\": 0, \"startTime\": 2, \"endTime\": 4\x7d, "
        ++ "\x7b\"id\": \"c1\", \"name\": \"rise\", \"targetId\": 1, \"startTime\": 1, "
        ++ "\"endTime\": 3\x7d]\x7d")
    let input : Input := .action (.onClip "c1" (.delete none))
    let session := (Session.fresh (some true) {}).takeInputs
      [.action (.receive clips), .line false ":new"]
    input.isTyped = false ∧
      session.Asks "Delete clip \"rise\"?" "DeleteClipById(c1)" ∧
      input.effects session =
        [.asked "Delete clip \"rise\"?" true, .published "DeleteClipById(c1)"] := by
  intro clips input session
  have effects :
      input.effects session =
        [.asked "Delete clip \"rise\"?" true, .published "DeleteClipById(c1)"] := by
    decide +kernel
  have published : .published "DeleteClipById(c1)" ∈ input.effects session := by
    rw [effects]
    exact List.mem_cons_of_mem _ List.mem_cons_self
  obtain ⟨removes, -, -, -, recorded⟩ := @takeInputs_consents (some true) {}
    [.action (.receive clips), .line false ":new"] input rfl
  obtain ⟨-, question, told, about, transcript⟩ := removes _ published (by decide)
  have heard : input.isHeard session = true := by
    decide +kernel
  rw [if_pos heard] at recorded
  rw [← recorded, effects] at transcript
  obtain ⟨asked, -⟩ := List.cons.inj transcript
  obtain ⟨rfl, -⟩ := Effect.asked.inj asked
  exact ⟨rfl, about, effects⟩

end Panel

end SceneEditor
