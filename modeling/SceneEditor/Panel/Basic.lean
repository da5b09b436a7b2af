import SceneEditor.Panel.Line
import SceneEditor.Panel.Sheet
import SceneEditor.Session.Keys

namespace SceneEditor.Panel

/-!
# Carrying out lines at the prompt

Three orders ask a question first.  A line asks at most one, so the answer is given with the line;
it does not count if nothing is asked.  A faulty line shows what is wrong with it and goes on.
-/

/-- What is asked before an order is carried out, if anything is. -/
def question? (session : Session) : Order → Option String
  | .deletePoint id => some (Session.deletePointPrompt id)
  | .deleteClip id =>
      (session.refresh.timeline.editor? id).map fun editor => ClipEditor.deletePrompt editor.clip
  | .newProject => some Session.newProjectPrompt
  | _ => none

/-- What is asked before a line is carried out, if anything is. -/
def lineQuestion? (session : Session) (line : String) : Option String :=
  match Line.read line with
  | .order order => question? session order
  | _ => none

/-- What comes of an order: nothing, or an error that is shown, or one that ends everything. -/
abbrev Result := Except NumberError (Except Error Unit)

/-- Each of the lines is shown. -/
def shown (lines : List String) : List Effect :=
  lines.map .shown

/-- An operation that succeeds, after which some lines are shown. -/
def done (outcome : Outcome α) (lines : List String) : Outcome Result where
  result := .ok (.ok ())
  session := outcome.session
  effects := outcome.effects ++ shown lines

/-- Lines that are only shown. -/
def showing (session : Session) (lines : List String) : Outcome Result :=
  done (session.only ()) lines

/-- Lines that are only shown, if they can be made. -/
def showingAll (session : Session) : Except NumberError (List String) → Outcome Result
  | .ok lines => showing session lines
  | .error error => session.only (.error error)

/-- What is shown if an order changed nothing. -/
def unchanged (result? : Option α) : List String :=
  if result?.isNone then ["no change"] else []

/-- An operation that may fail, after which some lines are shown. -/
def attempted
    (outcome : Outcome (Except NumberError α))
    (lines : α → List String) :
    Outcome Result :=
  match outcome.result with
  | .ok value => done outcome (lines value)
  | .error error => outcome.map fun _ => .error error

/-- An operation after a question. -/
def asking (question : String) (agrees : Bool) (outcome : Outcome Result) : Outcome Result :=
  { outcome with effects := .asked question agrees :: outcome.effects }

/-- What a click shows: the connection that it made, or the point that it noted. -/
def clickLines (session : Session) : Option Command → List String
  | some command => [command.wire]
  | none => (session.build.pending?.map fun start => "start: " ++ pointRef start).toList

/-- What is shown of the build mode: the material that is built with, if one is armed. -/
def buildLines (session : Session) (armed : Bool) : List String :=
  match armed, session.activeMaterial? with
  | true, some material => ["Building with: " ++ material.name]
  | _, _ => ["build mode off"]

/-- What is shown if a project could not be saved for want of a name. -/
def saveLines (dispatched? : Option Dispatched) : List String :=
  if dispatched?.isNone then ["project has no name yet: use :save <name>"] else []

/-- Edit a material; a number that cannot be read is an error of the line. -/
def updateMaterial (session : Session) (id field value : String) : Outcome Result :=
  let outcome := session.updateMaterial id field (.string value)
  match outcome.result with
  | .ok changed => done outcome (if changed then [] else ["no change"])
  | .error (.number error) => outcome.map fun _ => .error error
  | .error error => outcome.map fun _ => .ok (.error (.material error))

/-- Delete the clip of an identifier if the user agrees. -/
def deleteClip (session : Session) (id : String) (agrees : Bool) : Outcome Result :=
  let current := session.refresh
  match current.timeline.editor? id with
  | none => showing current ["no clip " ++ id]
  | some editor =>
      asking (ClipEditor.deletePrompt editor.clip) agrees
        (done (current.deleteClip id (some agrees)) [])

/-- Carry out an order, given the answer to the question that it may ask. -/
def perform (session : Session) (agrees : Bool) : Order → Outcome Result
  | .help words => showing session (helpLines words)
  | .showPoints => showing session (pointLines session)
  | .movePoint id x y z =>
      attempted (session.editPoint id (.string x) (.string y) (.string z)) unchanged
  | .recolor id color =>
      let outcome := session.editColor id color
      done outcome (unchanged outcome.result)
  | .deletePoint id =>
      asking (Session.deletePointPrompt id) agrees
        (done (session.deletePoint id (some agrees)) [])
  | .showMaterials => showingAll session (materialLines session)
  | .addMaterial =>
      let outcome := session.addMaterial
      let material := outcome.result
      done outcome ["added " ++ material.name ++ " (" ++ material.id ++ ")"]
  | .updateMaterial id field value => updateMaterial session id field value
  | .build id =>
      let outcome := session.selectBuild id
      done outcome (buildLines outcome.session outcome.result)
  | .click id =>
      let outcome := session.click id
      done outcome (clickLines outcome.session outcome.result)
  | .showBill => showingAll session (session.bill.map billLines)
  | .showClips => showing session.refresh (clipLines session.refresh)
  | .deleteClip id => deleteClip session id agrees
  | .togglePlay => done session.togglePlay []
  | .stop => done session.stop []
  | .seek time => attempted (session.seek time) fun _ => []
  | .undo => attempted (session.press "z" true false) fun _ => []
  | .redo => attempted (session.press "y" true false) fun _ => []
  | .newProject =>
      asking Session.newProjectPrompt agrees
        (attempted (session.newProject (some agrees)) fun _ => [])
  | .save => attempted session.save saveLines
  | .saveAs name =>
      attempted (session.saveAs name session.projectName?.isNone) fun _ => []
  | .load id name? => attempted (session.loadProject id name?) fun _ => []

/-- How an error is shown. -/
def errorLine (error : Error) : String :=
  "error: " ++ error.message

/-- The result of an order as the answer whether the session goes on. -/
def finish (outcome : Outcome Result) : Outcome (Except NumberError Bool) :=
  match outcome.result with
  | .error error => outcome.map fun _ => .error error
  | .ok (.ok ()) => outcome.map fun _ => .ok true
  | .ok (.error error) =>
      let told := outcome.map fun _ => .ok true
      { told with effects := told.effects ++ shown [errorLine error] }

/--
Carry out a line at the prompt, given the answer to the question that it may ask; the result tells
whether the session goes on.
-/
def handle (session : Session) (agrees : Bool) (line : String) :
    Outcome (Except NumberError Bool) :=
  match Line.read line with
  | .blank => session.only (.ok true)
  | .command text => ((session.type text).submit).map fun result => result.map fun _ => true
  | .quit => session.only (.ok false)
  | .unknown name =>
      finish (showing session ["unknown panel command :" ++ name ++ " (try :help)"])
  | .faulty error => finish (session.only (.ok (.error error)))
  | .order order => finish (perform session agrees order)

end SceneEditor.Panel
