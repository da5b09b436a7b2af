import SceneEditor.Session.Lines

namespace SceneEditor.Session

/-!
# Collections

A change of a collection is dispatched as the line of its command, and so noted in the history.
-/

/-- Dispatch the text of a command as if it were typed. -/
def dispatchCommand (session : Session) (command : Command) :
    Outcome (Except NumberError (Option Dispatched)) :=
  session.dispatch command.wire

/-- Add a range of points to a collection, unless the range cannot be read. -/
def addToCollection (session : Session) (name range : String) :
    Outcome (Except NumberError (Option Dispatched)) :=
  match PointRange.expand? range with
  | .error error => session.only (.error error)
  | .ok none => session.only (.ok none)
  | .ok (some ids) => session.dispatchCommand (.addToCollection name ids)

/-- Take a point out of a collection. -/
def removeFromCollection (session : Session) (name : String) (id : Int) :
    Outcome (Except NumberError (Option Dispatched)) :=
  session.dispatchCommand (.removeFromCollection name [id])

/-- Create a collection, unless its name is blank. -/
def createCollection (session : Session) (name : String) :
    Outcome (Except NumberError (Option Dispatched)) :=
  if isBlankText name then session.only (.ok none)
  else session.dispatchCommand (.addCollection (trimmed name) [])

/-- Rename a collection, unless the new name is blank or the old one. -/
def renameCollection (session : Session) (oldName newName : String) :
    Outcome (Except NumberError (Option Dispatched)) :=
  if isBlankText newName || newName = oldName then session.only (.ok none)
  else session.dispatchCommand (.renameCollection oldName newName)

end SceneEditor.Session
