import SceneEditor.Number.Num
import SceneEditor.Text.Quoted

namespace SceneEditor

/-!
# JSON values

Values as they are found in snapshots, settings and edits.  An object keeps the order of its keys.
A value has two texts: its *display*, in which texts are quoted, and its *plain text*, in which
only the texts inside a list or an object are.
-/

/-- A JSON value; its numbers are integers or binary floating-point numbers. -/
inductive Json where
  | null
  | bool (value : Bool)
  | number (value : Num)
  | string (value : String)
  | array (items : List Json)
  | object (fields : List (String × Json))
  deriving Repr, Inhabited

namespace Json

/-- How the kind of a value is called in errors. -/
def kind : Json → String
  | null => "NoneType"
  | bool _ => "bool"
  | number (.int _) => "int"
  | number (.real _) => "float"
  | string _ => "str"
  | array _ => "list"
  | object _ => "dict"

mutual

/-- The text of a value in which texts are quoted. -/
def display : Json → String
  | null => "None"
  | bool true => "True"
  | bool false => "False"
  | number value => value.text
  | string value => quoted value
  | array items => "[" ++ commaList (displayItems items) ++ "]"
  | object fields => "\x7b" ++ commaList (displayFields fields) ++ "\x7d"

/-- The texts of the items of a list. -/
def displayItems : List Json → List String
  | [] => []
  | item :: rest => display item :: displayItems rest

/-- The texts of the fields of an object, the key in front of the value. -/
def displayFields : List (String × Json) → List String
  | [] => []
  | (key, value) :: rest => (quoted key ++ ": " ++ display value) :: displayFields rest

end

/-- The text of a value; a text stands for itself. -/
def plainText : Json → String
  | string value => value
  | value => value.display

/-- The value is neither null, false, zero nor empty. -/
def isTruthy : Json → Bool
  | null => false
  | bool value => value
  | number value => !value.equals 0
  | string value => !value.isEmpty
  | array items => !items.isEmpty
  | object fields => !fields.isEmpty

/-- The value of a key; the first field of that key counts. -/
def field? (key : String) (fields : List (String × Json)) : Option Json :=
  (fields.find? fun (name, _) => name == key).map Prod.snd

/-- The value of a key that is there and not null. -/
def present? (key : String) (fields : List (String × Json)) : Option Json :=
  match field? key fields with
  | some null => none
  | value => value

/-- Set the value of a key: a key that is there keeps its place. -/
def setField (key : String) (value : Json) : List (String × Json) → List (String × Json)
  | [] => [(key, value)]
  | (name, old) :: rest =>
      if name = key then (key, value) :: rest
      else (name, old) :: setField key value rest

end Json

end SceneEditor
