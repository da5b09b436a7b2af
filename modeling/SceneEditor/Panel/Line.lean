import SceneEditor.Material.Catalog
import SceneEditor.Text.Characters
import SceneEditor.Text.Words

namespace SceneEditor.Panel

/-!
# Lines at the prompt

A line that begins with a colon is an order to one of the panels, or ends the session; any other
line is dispatched as a command.  An order has a name and arguments, which are the words behind the
colon.
-/

/-- An order to a panel. -/
inductive Order where
  | help (words : List String)
  | showPoints
  | movePoint (id : Int) (x y z : String)
  | recolor (id : Int) (color : String)
  | deletePoint (id : Int)
  | showMaterials
  | addMaterial
  | updateMaterial (id field value : String)
  | build (id : String)
  | click (id : Int)
  | showBill
  | showClips
  | deleteClip (id : String)
  | togglePlay
  | stop
  | seek (time : Binary64)
  | undo
  | redo
  | newProject
  | save
  | saveAs (name : String)
  | load (id : String) (name? : Option String)
  deriving DecidableEq, Repr

/-- Why an order cannot be carried out. -/
inductive Error where
  | words (error : Text.WordsError)
  | noName
  | missingArgument
  | number (error : NumberError)
  | material (error : Catalog.EditError)
  deriving DecidableEq, Repr

/-- The wording of an error. -/
def Error.message : Error → String
  | words error => error.message
  | noName => "not enough values to unpack (expected at least 1, got 0)"
  | missingArgument => "list index out of range"
  | number error => error.message
  | material error => error.message

/-- What a line at the prompt is. -/
inductive Line where
  | blank
  | command (text : String)
  | quit
  | order (order : Order)
  | unknown (name : String)
  | faulty (error : Error)
  deriving DecidableEq, Repr

/-- The argument at a place, which may be missing. -/
def argument (arguments : List String) (place : Nat) : Except Error String :=
  match arguments[place]? with
  | some argument => .ok argument
  | none => .error .missingArgument

/-- The point that an argument refers to, in front of whose number any letters p may stand. -/
def pointId (arguments : List String) : Except Error Int := do
  let reference ← argument arguments 0
  let digits := String.ofList (reference.toList.dropWhile (· = 'p'))
  (Numeral.integer? digits).mapError .number

/-- Words with a space between each two. -/
def spaced (words : List String) : String :=
  " ".intercalate words

/-- The names of the order that ends the session. -/
def quitNames : List String :=
  ["q", "quit", "exit"]

/-- The order of a name with its arguments, if an order has the name. -/
def order? (name : String) (arguments : List String) : Option (Except Error Order) :=
  match name with
  | "help" => some (.ok (.help arguments))
  | "points" => some (.ok .showPoints)
  | "edit" => some do
      let id ← pointId arguments
      let x ← argument arguments 1
      let y ← argument arguments 2
      let z ← argument arguments 3
      return .movePoint id x y z
  | "color" => some do
      let id ← pointId arguments
      return .recolor id (← argument arguments 1)
  | "rm" => some do return .deletePoint (← pointId arguments)
  | "materials" => some (.ok .showMaterials)
  | "addmat" => some (.ok .addMaterial)
  | "mat" => some do
      let id ← argument arguments 0
      let field ← argument arguments 1
      return .updateMaterial id field (spaced (arguments.drop 2))
  | "build" => some do return .build (← argument arguments 0)
  | "click" => some do return .click (← pointId arguments)
  | "bom" => some (.ok .showBill)
  | "clips" => some (.ok .showClips)
  | "rmclip" => some do return .deleteClip (← argument arguments 0)
  | "play" => some (.ok .togglePlay)
  | "stop" => some (.ok .stop)
  | "seek" => some do
      let time ← argument arguments 0
      return .seek (← (Numeral.real? time).mapError .number)
  | "undo" => some (.ok .undo)
  | "redo" => some (.ok .redo)
  | "new" => some (.ok .newProject)
  | "save" => some (.ok (if arguments.isEmpty then .save else .saveAs (spaced arguments)))
  | "load" => some do
      let id ← argument arguments 0
      let name := spaced (arguments.drop 1)
      return .load id (if name.isEmpty then none else some name)
  | _ => none

/-- What the words behind a colon ask for; the first of them is the name of the order. -/
def Line.ofWords : List String → Line
  | [] => faulty .noName
  | name :: arguments =>
      if quitNames.contains name then quit
      else
        match order? name arguments with
        | none => unknown name
        | some (.ok given) => order given
        | some (.error error) => faulty error

/-- What a line asks for: an order behind a colon, or else a command. -/
def Line.read (line : String) : Line :=
  match Text.trim line.toList with
  | [] => blank
  | ':' :: rest =>
      match Text.words rest with
      | .ok words => ofWords (words.map String.ofList)
      | .error error => faulty (.words error)
  | text => command (String.ofList text)

end SceneEditor.Panel
