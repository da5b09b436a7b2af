import SceneEditor.Json.Basic
import SceneEditor.Number.Numeral

namespace SceneEditor.Json

/-!
# Numbers that a value stands for

A truth value stands for one or zero, a text for the numeral that it holds.  Null, lists and
objects stand for no number.  Any value stands for its plain text, unless an integer in it has too
many digits to be written.
-/

mutual

/-- Every integer in the value has few enough digits to be written. -/
def isWritable : Json → Bool
  | number (.int value) => decide (value.natAbs < Nat.pow 10 NumberError.digitLimit)
  | array items => areWritable items
  | object fields => areFieldsWritable fields
  | _ => true

/-- All items of a list can be written. -/
def areWritable : List Json → Bool
  | [] => true
  | item :: rest => isWritable item && areWritable rest

/-- All values of an object can be written. -/
def areFieldsWritable : List (String × Json) → Bool
  | [] => true
  | (_, value) :: rest => isWritable value && areFieldsWritable rest

end

/-- The text of a value, unless it holds an integer that is too long to be written. -/
def toText (value : Json) : Except NumberError String :=
  if value.isWritable then .ok value.plainText else .error .unwritableInteger

/-- Leave out a value that is not acceptable, with a note that shows it. -/
def discarded (value : Json) : Except NumberError (Option α) :=
  value.toText.map fun _ => none

/-- The binary floating-point number that a value stands for; a text is read as a numeral. -/
def toReal : Json → Except NumberError Binary64
  | null => .error (.notReal null.kind)
  | bool value => .ok (if value then 1 else 0)
  | number value => value.toReal
  | string text => Numeral.real? text
  | array items => .error (.notReal (array items).kind)
  | object fields => .error (.notReal (object fields).kind)

/-- The integer that a value stands for; a fraction is dropped. -/
def toInteger : Json → Except NumberError Int
  | null => .error (.notInteger null.kind)
  | bool value => .ok (if value then 1 else 0)
  | number (.int value) => .ok value
  | number (.real .nan) => .error .undefinedInteger
  | number (.real (.infinity _)) => .error .infiniteInteger
  | number (.real value) => .ok (value.truncated?.getD 0)
  | string text => Numeral.integer? text
  | array items => .error (.notInteger (array items).kind)
  | object fields => .error (.notInteger (object fields).kind)

/--
The number that a user typed, if the value is one.  Only an integer that is too large for a
floating-point number is a failure; any other value that is no number is just not one.
-/
def typed? (value : Json) : Except NumberError (Option Binary64) :=
  match value.toReal with
  | .ok real => .ok (if real.isNan then none else some real)
  | .error .integerTooLarge => .error .integerTooLarge
  | .error _ => .ok none

end SceneEditor.Json
