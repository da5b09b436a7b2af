import SceneEditor.Command.Basic
import SceneEditor.Line.CallText
import SceneEditor.Line.PointRange

namespace SceneEditor

/-!
# Ranges in collection calls

A typed call that creates a collection, adds to it or removes from it names its points in brackets.
Where one of them is a range, the list is written out; a list with a malformed member is left
as it is.
-/

/-- A typed call on a collection: its command, the collection and what stands in the brackets. -/
structure CollectionCall where
  command : List Char
  collection : List Char
  body : List Char
  deriving DecidableEq, Repr

namespace CollectionCall

/-- The names of the commands, in small letters. -/
def commands : List (List Char) :=
  ["addcollection".toList, "addtocollection".toList, "removefromcollection".toList]

/-- A name without the blanks around it; of a name that is all blank the last blank stays. -/
def nameOf? (text : List Char) : Option (List Char) :=
  match Text.trim text, text.getLast? with
  | [], last? => last?.map fun last => [last]
  | name, _ => some name

/-- The name and the text between the brackets, if a text goes on like the arguments of a command
for collections. -/
def arguments? (command text : List Char) : Option CollectionCall := do
  let inner ← CallText.afterMark? '(' text
  let (name, afterComma) ← CallText.cutBefore? ',' inner
  let collection ← nameOf? name
  if collection.any fun c => c = '[' || c = ']' then none
  else
    let afterBracket ← CallText.afterMark? '[' afterComma
    let (body, afterBody) ← CallText.cutBefore? ']' afterBracket
    match CallText.afterMark? ')' afterBody with
    | some [] => return { command, collection, body }
    | _ => none

/-- Recognize a whole text as a call. -/
def ofText? (text : List Char) : Option CollectionCall :=
  commands.findSome? fun name => do
    let (command, rest) ← CallText.takeName? name text
    arguments? command rest

/-- The call with points in the place of its list. -/
def withPoints (call : CollectionCall) (ids : List Int) : String :=
  String.ofList call.command ++ "(" ++ String.ofList call.collection ++ ", "
    ++ pointList ids ++ ")"

/-- Write out the ranges of a collection call; any other text stays as it is. -/
def expandRanges (text : String) : Except NumberError String :=
  match ofText? (Text.trim text.toList) with
  | none => .ok text
  | some call =>
      if Text.occurs ['.', '.'] call.body then do
        match ← PointRange.expandList? (String.ofList call.body) with
        | some ids => return call.withPoints ids
        | none => return text
      else .ok text

end CollectionCall

end SceneEditor
