import SceneEditor.Proofs.Json.Typed
import SceneEditor.Proofs.Line.LongRange
import SceneEditor.Proofs.Timeline.Settings
import SceneEditor.Session.Materials
import SceneEditor.Session.Points
import SceneEditor.Session.Projects
import SceneEditor.Session.Timeline

namespace SceneEditor

open Attempt

/-!
# Operations that succeed

Most operations may fail on what a program gives them, but not on what a user types: a typed number is
a number or none, a time is sought within the track, and a project is saved, loaded or cleared
by a command that is no call on a collection.
-/

/-!
## Texts that stand for numbers
-/

/-- A text that is typed is a number or none, but never a failure. -/
theorem Json.typed?_string (text : String) :
    ∃ real?, (Json.string text).typed? = .ok real? := by
  rw [typed?, toReal]
  cases read : Numeral.real? text with
  | ok real =>
      exact ⟨_, rfl⟩
  | error error =>
      obtain rfl := Numeral.real?_error read
      exact ⟨none, rfl⟩

/-- Texts can be shown where they are left out. -/
theorem Json.discarded_strings
    {α : Type}
    (texts : List String) :
    (Json.array (texts.map Json.string)).discarded = .ok (none : Option α) := by
  have writable : Json.areWritable (texts.map Json.string) = true := by
    induction texts with
    | nil =>
        rfl
    | cons text rest inductionHypothesis =>
        exact inductionHypothesis
  simp [discarded, toText, isWritable, writable, Except.map]

namespace Session

theorem moveTo?_string
    (point : Point)
    (x y z : String) :
    ∃ command?, moveTo? point (.string x) (.string y) (.string z) = .ok command? := by
  obtain ⟨x?, readX⟩ := Json.typed?_string x
  obtain ⟨y?, readY⟩ := Json.typed?_string y
  obtain ⟨z?, readZ⟩ := Json.typed?_string z
  simp only [moveTo?, coordinate?, readX, readY, readZ, bind, Except.bind, pure, Except.pure]
  split
  · split
    · exact ⟨none, rfl⟩
    · exact ⟨_, rfl⟩
  · exact ⟨none, Json.discarded_strings [x, y, z]⟩

/-- Typed texts always give a result for a point. -/
theorem editPoint_string
    (session : Session)
    (id : Int)
    (x y z : String) :
    ∃ command?,
      (session.editPoint id (.string x) (.string y) (.string z)).result = .ok command? := by
  unfold editPoint
  split
  · exact ⟨none, rfl⟩
  · next point found =>
    obtain ⟨command?, moved⟩ := moveTo?_string point x y z
    rw [moved]
    exact ⟨command?, rfl⟩

end Session

namespace Catalog

/-- A typed text always gives a result for a field of a material. -/
theorem change?_string
    (field : MaterialField)
    (text : String) :
    ∃ edit?, change? field (.string text) = .ok edit? := by
  obtain ⟨real?, read⟩ := Json.typed?_string text
  cases field with
  | name =>
      exact ⟨_, rfl⟩
  | color =>
      exact ⟨_, rfl⟩
  | thickness =>
      simp only [change?, read, bind, Except.bind, pure, Except.pure]
      split
      · split
        · exact ⟨_, rfl⟩
        · exact ⟨_, rfl⟩
      · exact ⟨_, rfl⟩
  | price =>
      simp only [change?, read, bind, Except.bind, pure, Except.pure]
      exact ⟨_, rfl⟩

/-- A text edits a field unless there is no such field. -/
theorem update_string
    {catalog : Catalog}
    {id field text : String}
    {error : EditError}
    (fails : catalog.update id field (.string text) = .error error) :
    error = .unknownField field := by
  unfold update at fails
  split at fails
  · exact (Except.error.inj fails).symm
  · next named known =>
    obtain ⟨edit?, edit⟩ := change?_string named text
    rw [edit] at fails
    split at fails
    · exact absurd fails (by simp)
    · cases edit? with
      | none =>
          exact absurd fails (by simp)
      | some change =>
          exact absurd fails (by simp)

end Catalog

/-!
## Seeks
-/

/-- A time that is sought is the one that was given, zero or the span of the track. -/
theorem Timeline.clampTime_cases
    (timeline : Timeline)
    (time : Binary64) :
    (∃ real, timeline.clampTime time = .real real) ∨
      timeline.clampTime time = timeline.settings.maxTime := by
  unfold clampTime Num.min
  split
  · exact Or.inr rfl
  · left
    unfold Num.max
    split
    · exact ⟨0, rfl⟩
    · exact ⟨time, rfl⟩

/-- Seeking succeeds with settings that were accepted. -/
theorem Session.seek_ok
    {session : Session}
    {checked : TimelineSettings}
    (accepted : session.timeline.settings.check = .ok checked)
    (time : Binary64) :
    ∃ command, (session.seek time).result = .ok command := by
  have target : ∃ real, (session.timeline.clampTime time).toReal = .ok real := by
    rcases session.timeline.clampTime_cases time with ⟨real, same⟩ | same
    · rw [same]
      exact ⟨real, rfl⟩
    · rw [same]
      exact (TimelineSettings.passes_of_check accepted).2.isComputable.maxTime
  obtain ⟨real, rounded⟩ := target
  unfold seek
  dsimp only
  rw [rounded]
  exact ⟨_, rfl⟩

/-!
## Projects

A command that saves, loads or clears a project is no call on a collection.
-/

theorem Outcome.onSuccess_result
    (outcome : Outcome (Except ε α))
    (change : Session → Session) :
    (outcome.onSuccess change).result = outcome.result := by
  unfold onSuccess
  split <;> rfl

namespace Session

/-- What begins with another letter than a call on a collection is dispatched. -/
theorem dispatch_of_head
    (session : Session)
    {line : String}
    {c : Char}
    {rest : List Char}
    (shape : Text.trim line.toList = c :: rest)
    (other : c.toLower ≠ 'a' ∧ c.toLower ≠ 'r') :
    ∃ dispatched?, (session.dispatch line).result = .ok dispatched? := by
  apply (session.dispatch_failsIf line).succeeds
  rw [shape]
  exact CollectionCall.not_namesTooMany (CollectionCall.ofText?_of_head other rest)

/-- A command with arguments that is no call on a collection is dispatched. -/
theorem dispatchCommand_call
    (session : Session)
    {command : Command}
    {c : Char}
    {arguments : List Char}
    (wire : command.wire.toList = c :: (arguments ++ [')']))
    (first : Text.isBlank c = false)
    (other : c.toLower ≠ 'a' ∧ c.toLower ≠ 'r') :
    ∃ dispatched?, (session.dispatchCommand command).result = .ok dispatched? := by
  have shape : Text.trim command.wire.toList = c :: (arguments ++ [')']) := by
    rw [wire]
    exact (Text.isTrimmed_between first (by decide) arguments).trim_eq
  exact session.dispatch_of_head shape other

theorem dispatchCommand_saveProject
    (session : Session)
    (name : String) :
    ∃ dispatched?, (session.dispatchCommand (.saveProject name)).result = .ok dispatched? :=
  session.dispatchCommand_call (Command.toList_call rfl [name]) (by decide) (by decide)

theorem dispatchCommand_loadProject
    (session : Session)
    (id : String) :
    ∃ dispatched?, (session.dispatchCommand (.loadProject id)).result = .ok dispatched? :=
  session.dispatchCommand_call (Command.toList_call rfl [id]) (by decide) (by decide)

theorem dispatchCommand_clear (session : Session) :
    ∃ dispatched?, (session.dispatchCommand .clear).result = .ok dispatched? := by
  have shape : Text.trim Command.clear.wire.toList = 'C' :: "lear".toList := by decide
  exact session.dispatch_of_head shape (by decide)

theorem save_ok (session : Session) :
    ∃ dispatched?, session.save.result = .ok dispatched? := by
  unfold save
  split
  · exact ⟨none, rfl⟩
  · next name named =>
    split
    · exact ⟨none, rfl⟩
    · exact session.dispatchCommand_saveProject name

theorem saveAs_ok
    (session : Session)
    (name : String)
    (adopt : Bool) :
    ∃ dispatched?, (session.saveAs name adopt).result = .ok dispatched? := by
  unfold saveAs
  split
  · exact ⟨none, rfl⟩
  · dsimp only
    split
    · rw [Outcome.onSuccess_result]
      exact session.dispatchCommand_saveProject name
    · exact session.dispatchCommand_saveProject name

theorem loadProject_ok
    (session : Session)
    (id : String)
    (name? : Option String) :
    ∃ dispatched?, (session.loadProject id name?).result = .ok dispatched? := by
  unfold loadProject
  rw [Outcome.onSuccess_result]
  exact session.dispatchCommand_loadProject id

theorem newProject_ok
    (session : Session)
    (agrees : Bool) :
    ∃ agreed, (session.newProject (some agrees)).result = .ok agreed := by
  cases agrees with
  | false =>
      exact ⟨false, rfl⟩
  | true =>
      obtain ⟨dispatched?, cleared⟩ := session.dispatchCommand_clear
      refine ⟨true, ?_⟩
      change
        (((session.dispatchCommand .clear).onSuccess fun session =>
          { session with projectName? := none }).result.map fun _ => true) = _
      rw [Outcome.onSuccess_result, cleared]
      rfl

end Session

end SceneEditor
