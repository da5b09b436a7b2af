import SceneEditor.Session.Collections

namespace SceneEditor.Session

/-!
# Projects

A project is saved under its name or a new one, loaded by its identifier, or begun anew.
-/

/-- What is asked before a project is begun. -/
def newProjectPrompt : String :=
  "Start new project? Unsaved changes will be lost."

/-- Begin a new project if the user agrees. -/
def newProject (session : Session) (given? : Option Bool) : Outcome (Except NumberError Bool) :=
  let (agreed, effects) := session.confirm given? newProjectPrompt
  if agreed then
    let cleared := (session.dispatchCommand .clear).onSuccess fun session =>
      { session with projectName? := none }
    {
      result := cleared.result.map fun _ => true
      session := cleared.session
      effects := effects ++ cleared.effects
    }
  else { result := .ok false, session, effects }

/-- Save under the name of the project, if it has one. -/
def save (session : Session) : Outcome (Except NumberError (Option Dispatched)) :=
  match session.projectName? with
  | none => session.only (.ok none)
  | some name =>
      if name.isEmpty then session.only (.ok none)
      else session.dispatchCommand (.saveProject name)

/-- Save under a name that is not blank, and adopt the name if asked to. -/
def saveAs (session : Session) (name : String) (adopt : Bool) :
    Outcome (Except NumberError (Option Dispatched)) :=
  if isBlankText name then session.only (.ok none)
  else
    let saved := session.dispatchCommand (.saveProject name)
    if adopt then saved.onSuccess fun session => { session with projectName? := some name }
    else saved

/-- Load a project, under a name if there is one. -/
def loadProject (session : Session) (id : String) (name? : Option String) :
    Outcome (Except NumberError (Option Dispatched)) :=
  (session.dispatchCommand (.loadProject id)).onSuccess fun session =>
    { session with projectName? := name? }

end SceneEditor.Session
