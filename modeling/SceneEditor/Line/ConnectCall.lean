import SceneEditor.Command.Basic
import SceneEditor.Line.CallText
import SceneEditor.Material.Catalog

namespace SceneEditor

/-!
# Material names in connect calls

A typed connect call may name a material in place of a color and a thickness.  Its third argument,
all that stands behind the second comma, is a name if it has no comma or begins with a quote.
-/

/-- A typed connect call: its three arguments without the blanks around them. -/
structure ConnectCall where
  source : List Char
  target : List Char
  material : List Char
  deriving DecidableEq, Repr

namespace ConnectCall

/-- The third argument in front of the closing parenthesis.  It stands on one line. -/
def lastArgument? (text : List Char) : Option (List Char) :=
  match text.getLast? with
  | some ')' =>
      let body := text.dropLast
      match body.dropWhile Text.isBlank with
      | [] =>
          match body.getLast? with
          | some last => if last = '\n' then none else some []
          | none => none
      | argument => if argument.contains '\n' then none else some (Text.trim argument)
  | _ => none

/-- Recognize a whole text as a call. -/
def ofText? (text : List Char) : Option ConnectCall := do
  let (_, rest) ← CallText.takeName? "connect".toList text
  let inner ← CallText.afterMark? '(' rest
  let (source, afterSource) ← CallText.cutBefore? ',' inner
  let (target, afterTarget) ← CallText.cutBefore? ',' afterSource
  let material ← lastArgument? afterTarget
  if source.isEmpty || target.isEmpty then none
  else return { source := Text.trim source, target := Text.trim target, material }

/-- A quotation mark of either kind. -/
def isQuote (c : Char) : Bool :=
  c = '"' || c = '\''

/-- The third argument names a material. -/
def namesMaterial (call : ConnectCall) : Bool :=
  !call.material.contains ',' || (call.material.head?.map isQuote).getD false

/-- The name of a material as it is written in a call, without its quotes. -/
def materialName (call : ConnectCall) : String :=
  String.ofList (call.material.filter fun c => !isQuote c)

/-- The call with the color and the thickness of a material in the place of its name. -/
def withMaterial (call : ConnectCall) (material : Material) : Command :=
  .connect (String.ofList call.source) (String.ofList call.target)
    material.color material.thickness

/-- Write a material of the catalog in the place of its name; any other text stays as it is. -/
def resolveMaterial (catalog : Catalog) (text : String) : String :=
  match ofText? (Text.trim text.toList) with
  | none => text
  | some call =>
      if call.namesMaterial then
        match catalog.findName? call.materialName with
        | some material => (call.withMaterial material).wire
        | none => text
      else text

end ConnectCall

end SceneEditor
