import SceneEditor.Text.Cut

namespace SceneEditor.Folder

/-!
# The folder of the journal

The folder that is given wins over the one of the environment.  A path is written without empty
parts and without parts that are one dot; two slashes at its start, and no more, stay two.
-/

/-- The slashes that a path begins with: two of them are kept, and more than two count as one. -/
def root : List Char → List Char
  | '/' :: '/' :: '/' :: _ => ['/']
  | '/' :: '/' :: _ => ['/', '/']
  | '/' :: _ => ['/']
  | _ => []

/-- The part adds nothing to a path. -/
def isIdle (part : List Char) : Bool :=
  part.isEmpty || part == ['.']

/-- A path without what adds nothing to it. -/
def tidy (path : String) : String :=
  let characters := path.toList
  let parts := (Text.pieces '/' characters).filter fun part => !isIdle part
  let written := root characters ++ List.intercalate ['/'] parts
  String.ofList (if written.isEmpty then ['.'] else written)

/-- The folder that was chosen, if one was. -/
def choose? (given? environment? : Option String) : Option String :=
  let isThere (path : String) := !path.isEmpty
  ((given?.filter isThere) <|> (environment?.filter isThere)).map tidy

end SceneEditor.Folder
