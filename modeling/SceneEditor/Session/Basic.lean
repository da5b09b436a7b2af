import SceneEditor.Journal.Level
import SceneEditor.Line.Prompt
import SceneEditor.Material.BuildMode
import SceneEditor.Timeline.Basic
import SceneEditor.World.Replica

namespace SceneEditor

/-!
# The editing session

A session joins the replica of the world, the catalog, the timeline and the typed lines.  Each
operation gives a result, the next session, and what it did to the outside in order: texts that
were published, questions that were asked, lines that were shown and notes for the journal.
-/

/-- What an operation did to the outside. -/
inductive Effect where
  | published (text : String)
  | asked (question : String) (answer : Bool)
  | shown (line : String)
  | noted (note : Note)
  deriving DecidableEq, Repr

/-- Everything that one user works with. -/
structure Session where
  /-- The answer that the user gives to questions; without it they are not asked and denied. -/
  answer? : Option Bool := none
  replica : Replica := {}
  catalog : Catalog := {}
  dispatcher : Dispatcher := {}
  prompt : Prompt := {}
  timeline : Timeline := {}
  build : BuildMode := {}
  projectName? : Option String := none
  deriving Repr

/-- The result of an operation, the session after it and its effects. -/
structure Outcome (α : Type) where
  result : α
  session : Session
  effects : List Effect := []
  deriving Repr

/-- An outcome with another result. -/
def Outcome.map (change : α → β) (outcome : Outcome α) : Outcome β where
  result := change outcome.result
  session := outcome.session
  effects := outcome.effects

/-- Change the session after an operation that may fail, if it succeeded. -/
def Outcome.onSuccess
    (outcome : Outcome (Except ε α))
    (change : Session → Session) :
    Outcome (Except ε α) :=
  match outcome.result with
  | .ok _ => { outcome with session := change outcome.session }
  | .error _ => outcome

namespace Session

/-- The world as it was last told. -/
def world (session : Session) : World :=
  session.replica.world

/-- An operation that only looks. -/
def only (session : Session) (result : α) : Outcome α :=
  { result, session }

/-- The effects of commands that are sent without being noted in the history. -/
def sent (commands : List Command) : List Effect :=
  commands.map fun command => .published command.wire

/-- Send the command that an operation makes, if it makes one. -/
def sending (session : Session) (command? : Option Command) : Outcome (Option Command) :=
  { result := command?, session, effects := sent command?.toList }

/-- Ask a question, unless the answer is given for this very call. -/
def confirm (session : Session) (given? : Option Bool) (question : String) :
    Bool × List Effect :=
  match given?, session.answer? with
  | some answer, _ => (answer, [])
  | none, some answer => (answer, [.asked question answer])
  | none, none => (false, [])

/-- Take in a message of the server: the catalog follows connections that changed, and a message
that is refused is noted. -/
def receive (session : Session) (message : Message) : Outcome Bool :=
  match session.replica.receive message with
  | (replica, .refused reason) =>
      {
        result := false
        session := { session with replica }
        effects := [.noted { level := .warning, message := reason.message }]
      }
  | (replica, .merged changed?) =>
      {
        result := true
        session := {
          session with
          replica
          catalog := (changed?.map session.catalog.noteConnections).getD session.catalog
        }
      }

end Session

end SceneEditor
