import SceneEditor.Number.Numeral
import SceneEditor.Text.Cut
import SceneEditor.Text.LetterCase

namespace SceneEditor.PointRange

/-!
# Ranges of points

Points are named one by one, as `p3` or `3`, or as a range with two or three dots between its ends.
The ends may stand in either order, and a range always counts upwards.  A range of more points than a
list may have is a failure, and not just malformed.
-/

/-- The number of a point, with or without a `p` in front. -/
def pointId? (token : List Char) : Option Int :=
  let body :=
    match Text.lower (Text.trim token) with
    | 'p' :: rest => Text.trim rest
    | text => text
  (Numeral.integer? (String.ofList body)).toOption

/-- The parts between runs of dots; a run is as long as it can be, up to three, and not one. -/
def dottedParts : List Char → List (List Char)
  | [] => [[]]
  | '.' :: '.' :: '.' :: rest => [] :: dottedParts rest
  | '.' :: '.' :: rest => [] :: dottedParts rest
  | c :: rest =>
      match dottedParts rest with
      | [] => [[c]]
      | first :: others => (c :: first) :: others

/-- How many members a list may have. -/
def memberLimit : Nat := Nat.pow 2 63 - 1

/-- The numbers from the one to the other, of which there may be too many for a list. -/
def idsBetween (start stop : Int) : Except NumberError (List Int) :=
  let first := min start stop
  let count := (max start stop - first + 1).toNat
  if memberLimit < count then .error .rangeTooLong
  else .ok ((List.range count).map fun offset : Nat => first + offset)

/-- The two ends of a range in small letters. -/
def ends? (body : List Char) : Option (Int × Int) :=
  match dottedParts body with
  | [start, stop] => do
      let start ← pointId? start
      let stop ← pointId? stop
      return (start, stop)
  | _ => none

/-- The points that a text names, if it is well formed. -/
def expand? (text : String) : Except NumberError (Option (List Int)) :=
  let body := Text.lower (Text.trim text.toList)
  if body.isEmpty then .ok none
  else if Text.occurs ['.', '.'] body then
    match ends? body with
    | some (start, stop) => some <$> idsBetween start stop
    | none => .ok none
  else
    .ok ((pointId? body).map fun id => [id])

/-- The points of some members, up to the first that is malformed. -/
def expandAll? : List (List Char) → Except NumberError (Option (List Int))
  | [] => .ok (some [])
  | member :: others => do
      match ← expand? (String.ofList member) with
      | none => return none
      | some ids => return (← expandAll? others).map (ids ++ ·)

/-- The points of a list with commas, all of whose members have to be well formed. -/
def expandList? (body : String) : Except NumberError (Option (List Int)) :=
  if body.toList.all Text.isBlank then .ok (some [])
  else expandAll? (Text.pieces ',' body.toList)

end SceneEditor.PointRange
