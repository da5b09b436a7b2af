import SceneEditor.Json.Basic

namespace SceneEditor.Json

/-!
# Summaries

A summary shows the fields of an object.  For a list or an object it shows the number of items
alone, and a summary that is too long is cut off and ends in three dots.
-/

/-- A value with the number of items in the place of a list or an object. -/
def counted : Json → Json
  | array items => string s!"<list:{items.length} items>"
  | object fields => string s!"<dict:{fields.length} items>"
  | value => value

/-- The beginning of a text; a negative length leaves out as many characters at the end. -/
def beginning (length : Int) (text : List Char) : List Char :=
  if length < 0 then text.take (text.length + length).toNat
  else text.take length.toNat

/-- How long a summary may be if nothing else is said. -/
def summaryLength : Int := 100

/-- The fields of a snapshot in a text of limited length, with long lists counted. -/
def summary (fields : List (String × Json)) (longest : Int) : String :=
  let text := (object (fields.map fun (key, value) => (key, counted value))).display
  if fields.isEmpty || (text.length : Int) ≤ longest then text
  else String.ofList (beginning (longest - 3) text.toList) ++ "..."

end SceneEditor.Json
