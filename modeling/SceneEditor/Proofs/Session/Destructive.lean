import SceneEditor.Proofs.Session.Forwarding
import SceneEditor.Proofs.Session.Run
import SceneEditor.Proofs.Session.TypedNumbers
import SceneEditor.Proofs.Timeline.Updates

namespace SceneEditor

open Attempt

/-!
# Texts that destroy

Three commands remove something for good: a point, a clip, or the whole project.  A line is expanded
to such a command only if it is one itself.  So everything that the panels dispatch is harmless, and
so is everything that they send, but for the three operations that ask a question first.
-/

namespace LineText

/-- The name of the command that a text is, which ends where the arguments begin. -/
def commandName (text : String) : String :=
  String.ofList (text.toList.takeWhile fun c => c != '(')

/-- The commands that remove a point, a clip or the whole project. -/
def destroyers : List String :=
  ["Delete", "DeleteClipById", "Clear"]

/-- The text is one of these commands, with or without arguments. -/
def destroys (text : String) : Bool :=
  destroyers.contains (commandName text)

/-- A text that removes something begins with one of two letters. -/
theorem head_of_destroys
    {text : String}
    {c : Char}
    {rest : List Char}
    (shape : text.toList = c :: rest)
    (destroys : destroys text = true) :
    c = 'D' ∨ c = 'C' := by
  have isDestroyer : commandName text ∈ destroyers := List.contains_iff_mem.mp destroys
  have letters :
      ∀ name ∈ destroyers, name.toList.head? = some 'D' ∨ name.toList.head? = some 'C' := by
    decide
  have first := letters _ isDestroyer
  by_cases opens : c = '('
  · exact absurd first (by simp [commandName, shape, opens])
  · simpa [commandName, shape, opens] using first

end LineText

namespace Command

/-- The name of the command that has this shape. -/
def Shape.name : Shape → String
  | verbatim text => LineText.commandName text
  | word name => name
  | call name _ => name

/-- The name of a call is what stands before its bracket. -/
theorem commandName_call
    {name : String}
    (whole : '(' ∉ name.toList)
    (arguments : List String) :
    LineText.commandName (Shape.call name arguments).text = name := by
  have kept : ∀ c ∈ name.toList, (c != '(') = true := by
    intro c member
    simpa using ne_of_mem_of_not_mem member whole
  simp [LineText.commandName, Shape.text, List.takeWhile_append_of_pos kept]

/-- The name of a command is that of its shape. -/
theorem commandName_wire (command : Command) :
    LineText.commandName command.wire = command.shape.name := by
  cases command with
  | raw text =>
      rfl
  | play | pause | stop | undo | redo | clear =>
      decide
  | _ =>
      exact commandName_call (by simp) _

/-- The command removes a point, a clip or the whole project. -/
def destroys : Command → Bool
  | raw text => LineText.destroys text
  | delete _ | deleteClipById _ | clear => true
  | _ => false

/-- A command travels as a text that removes something exactly if it does so itself. -/
theorem destroys_wire (command : Command) :
    LineText.destroys command.wire = command.destroys := by
  rw [LineText.destroys, commandName_wire]
  cases command with
  | _ =>
      rfl

/-- The command is text that is forwarded as it stands. -/
def isRaw : Command → Bool
  | raw _ => true
  | _ => false

/-- A command has no blanks at its ends, unless it is a text of somebody else. -/
theorem trimmed_wire
    {command : Command}
    (notRaw : command.isRaw = false) :
    trimmed command.wire = command.wire := by
  cases command with
  | raw text =>
      exact absurd notRaw (by simp [isRaw])
  | unnamed | play | pause | stop | undo | redo | clear =>
      decide
  | _ =>
      exact (isTrimmed_call rfl (by decide) _).trimmed_eq

end Command

/-- A call on a collection removes nothing, whatever is read as one. -/
theorem CollectionCall.not_destroys_of_ofText?
    {text : String}
    {call : CollectionCall}
    (read : ofText? text.toList = some call)
    (destroys : LineText.destroys text = true) :
    False := by
  cases shape : text.toList with
  | nil =>
      have nothing : ofText? [] = none := by decide
      rw [shape, nothing] at read
      exact absurd read (by simp)
  | cons c rest =>
      rw [shape] at read
      rcases LineText.head_of_destroys shape destroys with rfl | rfl
      · exact absurd (head_of_ofText? read) (by decide)
      · exact absurd (head_of_ofText? read) (by decide)

namespace Dispatcher

/-- A line is expanded to a text that removes something only if it is that text itself. -/
theorem eq_trimmed_of_destroys
    {catalog : Catalog}
    {line text : String}
    (expanded : expand catalog line = .ok text)
    (destroys : LineText.destroys text = true) :
    text = trimmed line := by
  apply eq_trimmed_of_not_rewrites expanded
  intro other rewrites
  obtain rfl := Except.ok.inj (expanded.symm.trans rewrites.expand_eq)
  cases rewrites with
  | material =>
      exact absurd destroys (Bool.eq_false_iff.mp (Command.destroys_wire _))
  | @points call idLists reads ranged named =>
      have isCall := CollectionCall.ofText?_eq_some_iff.mpr reads
      have again := CollectionCall.ofText?_withPoints isCall idLists.flatten
      exact CollectionCall.not_destroys_of_ofText? again destroys

end Dispatcher

/-!
## Effects
-/

namespace Effect

/-- The effect is no question, and publishes nothing that removes something. -/
def IsHarmless : Effect → Prop
  | published text => LineText.destroys text = false
  | asked _ _ => False
  | shown _ | noted _ => True

end Effect

/-- None of the effects is a question, or removes something. -/
def Harmless (effects : List Effect) : Prop :=
  ∀ effect ∈ effects, effect.IsHarmless

theorem harmless_nil : Harmless [] :=
  List.forall_mem_nil _

/-- Commands that destroy nothing do no harm. -/
theorem harmless_sent
    {commands : List Command}
    (quiet : ∀ command ∈ commands, command.destroys = false) :
    Harmless (Session.sent commands) :=
  List.forall_mem_map.mpr fun command member =>
    command.destroys_wire.trans (quiet command member)

/-- What is published is the one effect, and removes nothing. -/
theorem harmless_published
    {text : String}
    (quiet : LineText.destroys text = false) :
    Harmless [.published text] :=
  List.forall_mem_singleton.mpr quiet

/-- An operation that asks nothing, removes nothing, and leaves the session its confirm. -/
structure Outcome.IsMild (outcome : Outcome α) (session : Session) : Prop where
  harmless : Harmless outcome.effects
  answer? : outcome.session.answer? = session.answer?

theorem Outcome.IsMild.map
    {outcome : Outcome α}
    {session : Session}
    (mild : outcome.IsMild session)
    (change : α → β) :
    (outcome.map change).IsMild session :=
  ⟨mild.harmless, mild.answer?⟩

theorem Outcome.IsMild.done
    {outcome : Outcome α}
    {session : Session}
    (mild : outcome.IsMild session) :
    outcome.done.IsMild session :=
  mild.map _

theorem Outcome.IsMild.onSuccess
    {outcome : Outcome (Except ε α)}
    {session : Session}
    (mild : outcome.IsMild session)
    {change : Session → Session}
    (kept : ∀ later, (change later).answer? = later.answer?) :
    (outcome.onSuccess change).IsMild session := by
  unfold Outcome.onSuccess
  split
  · exact ⟨mild.harmless, (kept _).trans mild.answer?⟩
  · exact mild

namespace Session

/-- Dispatching a line keeps the answer that is set. -/
theorem answer?_dispatch
    (session : Session)
    (line : String) :
    (session.dispatch line).session.answer? = session.answer? := by
  unfold dispatch
  split <;> rfl

theorem isMild_sending
    (session : Session)
    {command? : Option Command}
    (quiet : ∀ command ∈ command?, command.destroys = false) :
    (session.sending command?).IsMild session where
  harmless := harmless_sent fun command member => quiet command (Option.mem_toList.mp member)
  answer? := rfl

/-- A line that removes nothing itself is expanded to none that does. -/
theorem isMild_dispatch
    (session : Session)
    {line : String}
    (quiet : LineText.destroys (trimmed line) = false) :
    (session.dispatch line).IsMild session := by
  refine ⟨?_, session.answer?_dispatch line⟩
  cases given : (DispatcherCall.dispatch session.catalog line).text? with
  | none =>
      rw [(session.dispatch_of_noText given).2]
      exact harmless_nil
  | some text =>
      obtain ⟨-, expanded⟩ := DispatcherCall.expand_of_text? given
      have harmless : LineText.destroys text = false := by
        by_contra destroys
        rw [Bool.not_eq_false] at destroys
        obtain rfl := Dispatcher.eq_trimmed_of_destroys expanded destroys
        exact Bool.eq_false_iff.mp quiet destroys
      rw [(session.dispatch_of_text? given).2,
        Dispatcher.note_published _ _ (Dispatcher.trimmed_expand expanded)]
      split
      · exact harmless_nil
      · exact harmless_published harmless

/-- A command that removes nothing is dispatched as a line that removes nothing. -/
theorem isMild_dispatchCommand
    (session : Session)
    {command : Command}
    (notRaw : command.isRaw = false)
    (quiet : command.destroys = false) :
    (session.dispatchCommand command).IsMild session := by
  apply session.isMild_dispatch
  rw [Command.trimmed_wire notRaw]
  exact command.destroys_wire.trans quiet

end Session

/-!
## Operations that ask nothing
-/

namespace Timeline

/-- A move of the pointer sends new times for clips, and removes none. -/
theorem quiet_pointerMove
    (timeline : Timeline)
    (x : Num) :
    ∀ command ∈ (timeline.pointerMove x).2.1, command.destroys = false := by
  -- the invariant is of what was sent so far, whoever waits to hear of the move
  let invariant (_ : List Nat) (state : MoveState) : Prop :=
    ∀ command ∈ state.sent, command.destroys = false
  have kept
      (place : Nat)
      (waiting : List Nat)
      (state : MoveState)
      (holds : invariant (place :: waiting) state) :
      invariant waiting
        (timeline.hub.tell (dragMoved timeline.settings x) place state).1 := by
    rcases timeline.hub.tell_cases (dragMoved timeline.settings x) place state with
      same | ⟨gesture, told⟩
    · rw [same]
      exact holds
    · rw [told]
      rcases dragMoved_cases timeline.settings x gesture state with
        silent | ⟨editor, span, startTime, endTime, isEditor, sends⟩
      · rw [silent]
        exact holds
      · rw [sends]
        refine List.forall_mem_append.mpr ⟨holds, List.forall_mem_singleton.mpr ?_⟩
        rfl
  have start : invariant timeline.hub.moveListeners { editors := timeline.editors } :=
    List.forall_mem_nil _
  exact PointerHub.deliver_keeps kept start

end Timeline

/-- A click makes a connection, and removes none. -/
theorem BuildMode.quiet_click
    (mode : BuildMode)
    (id : Int) :
    ∀ command ∈ (mode.click id).2, command.destroys = false := by
  intro command isCommand
  unfold click at isCommand
  split at isCommand
  · exact absurd isCommand (by simp)
  · exact absurd isCommand (by simp)
  · split at isCommand
    · exact absurd isCommand (by simp)
    · obtain rfl := Option.mem_some_iff.mp isCommand
      rfl

/-- A new name destroys nothing. -/
theorem ClipEditor.quiet_commitRename (editor : ClipEditor) :
    ∀ command ∈ editor.commitRename.2, command.destroys = false := by
  intro command isCommand
  unfold commitRename at isCommand
  split at isCommand
  · dsimp only at isCommand
    split at isCommand
    · exact absurd isCommand (by simp)
    · obtain rfl := Option.mem_some_iff.mp isCommand
      rfl
  · exact absurd isCommand (by simp)

namespace Session

theorem isMild_receive
    (session : Session)
    (message : Message) :
    (session.receive message).IsMild session := by
  cases held : message.snapshot? with
  | none =>
      obtain ⟨note, received⟩ := session.receive_dropped held
      rw [received]
      exact ⟨List.forall_mem_singleton.mpr trivial, rfl⟩
  | some snapshot =>
      rw [session.receive_accepted held]
      exact ⟨harmless_nil, rfl⟩

theorem isMild_editPoint
    (session : Session)
    (id : Int)
    (x y z : Json) :
    (session.editPoint id x y z).IsMild session := by
  have quiet
      {point : Point}
      {command? : Option Command}
      (moved : moveTo? point x y z = .ok command?) :
      ∀ command ∈ command?, command.destroys = false := by
    rintro command isMove
    obtain rfl := Option.mem_def.mp isMove
    obtain ⟨position, -, -, rfl⟩ := moveTo?_eq_some moved
    rfl
  unfold editPoint
  split
  · exact ⟨harmless_nil, rfl⟩
  · split
    · exact ⟨harmless_nil, rfl⟩
    · next moved =>
      exact (session.isMild_sending (quiet moved)).map _

theorem isMild_editColor
    (session : Session)
    (id : Int)
    (color : String) :
    (session.editColor id color).IsMild session := by
  unfold editColor
  split
  · exact ⟨harmless_nil, rfl⟩
  · split
    · exact ⟨harmless_nil, rfl⟩
    · exact ⟨harmless_sent (List.forall_mem_singleton.mpr rfl), rfl⟩

theorem isMild_addToCollection
    (session : Session)
    (name range : String) :
    (session.addToCollection name range).IsMild session := by
  unfold addToCollection
  split
  · exact ⟨harmless_nil, rfl⟩
  · exact ⟨harmless_nil, rfl⟩
  · exact session.isMild_dispatchCommand rfl rfl

theorem isMild_removeFromCollection
    (session : Session)
    (name : String)
    (id : Int) :
    (session.removeFromCollection name id).IsMild session :=
  session.isMild_dispatchCommand rfl rfl

theorem isMild_createCollection
    (session : Session)
    (name : String) :
    (session.createCollection name).IsMild session := by
  unfold createCollection
  split
  · exact ⟨harmless_nil, rfl⟩
  · exact session.isMild_dispatchCommand rfl rfl

theorem isMild_renameCollection
    (session : Session)
    (oldName newName : String) :
    (session.renameCollection oldName newName).IsMild session := by
  unfold renameCollection
  split
  · exact ⟨harmless_nil, rfl⟩
  · exact session.isMild_dispatchCommand rfl rfl

theorem isMild_saveProject
    (session : Session)
    (name : String) :
    (session.dispatchCommand (.saveProject name)).IsMild session :=
  session.isMild_dispatchCommand rfl rfl

theorem isMild_save (session : Session) :
    session.save.IsMild session := by
  unfold save
  split
  · exact ⟨harmless_nil, rfl⟩
  · split
    · exact ⟨harmless_nil, rfl⟩
    · exact session.isMild_saveProject _

theorem isMild_saveAs
    (session : Session)
    (name : String)
    (adopt : Bool) :
    (session.saveAs name adopt).IsMild session := by
  have saved := session.isMild_saveProject name
  unfold saveAs
  split
  · exact ⟨harmless_nil, rfl⟩
  · dsimp only
    split
    · exact saved.onSuccess fun _ => rfl
    · exact saved

theorem isMild_loadProject
    (session : Session)
    (id : String)
    (name? : Option String) :
    (session.loadProject id name?).IsMild session := by
  have loaded : (session.dispatchCommand (.loadProject id)).IsMild session :=
    session.isMild_dispatchCommand rfl rfl
  exact loaded.onSuccess fun _ => rfl

theorem isMild_updateMaterial
    (session : Session)
    (id field : String)
    (value : Json) :
    (session.updateMaterial id field value).IsMild session := by
  unfold updateMaterial
  split
  · exact ⟨harmless_nil, rfl⟩
  · exact ⟨harmless_nil, rfl⟩

theorem isMild_toggleBuild
    (session : Session)
    (material : Material) :
    (session.toggleBuild material).IsMild session := by
  unfold toggleBuild
  split
  · exact ⟨harmless_nil, rfl⟩
  · exact ⟨harmless_nil, rfl⟩

theorem isMild_selectBuild
    (session : Session)
    (id : String) :
    (session.selectBuild id).IsMild session := by
  unfold selectBuild
  split
  · exact ⟨harmless_nil, rfl⟩
  · split
    · exact ⟨harmless_nil, rfl⟩
    · exact ⟨List.forall_mem_singleton.mpr trivial, rfl⟩

theorem isMild_click
    (session : Session)
    (id : Int) :
    (session.click id).IsMild session :=
  ⟨(session.isMild_sending (session.build.quiet_click id)).harmless, rfl⟩

theorem isMild_togglePlay (session : Session) :
    session.togglePlay.IsMild session := by
  refine ⟨harmless_sent (List.forall_mem_singleton.mpr ?_), rfl⟩
  split
  · rfl
  · rfl

theorem isMild_press
    (session : Session)
    (key : String)
    (control focused : Bool) :
    (session.press key control focused).IsMild session := by
  unfold press
  dsimp only
  split
  · exact ⟨harmless_sent (List.forall_mem_singleton.mpr rfl), rfl⟩
  split
  · exact ⟨harmless_sent (List.forall_mem_singleton.mpr rfl), rfl⟩
  split
  · exact session.isMild_save.map _
  split
  · exact ⟨harmless_nil, rfl⟩
  split
  · exact session.isMild_togglePlay.map _
  · exact ⟨harmless_nil, rfl⟩

theorem isMild_seek
    (session : Session)
    (time : Binary64) :
    (session.seek time).IsMild session := by
  unfold seek
  dsimp only
  split
  · exact ⟨harmless_nil, rfl⟩
  · exact ⟨harmless_sent (List.forall_mem_singleton.mpr rfl), rfl⟩

theorem isMild_commitRename
    (session : Session)
    (id : String) :
    (session.commitRename id).IsMild session := by
  unfold commitRename
  split
  · exact ⟨harmless_nil, rfl⟩
  · next editor found =>
    exact ⟨(isMild_sending _ editor.quiet_commitRename).harmless, rfl⟩

end Session
end SceneEditor
