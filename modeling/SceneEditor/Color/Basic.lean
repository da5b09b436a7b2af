import SceneEditor.Color.Names
import SceneEditor.Text.Characters
import SceneEditor.Text.LetterCase

namespace SceneEditor.Color

/-!
# Colors

A color is written by name, by three or by six hexadecimal digits.  Normalization takes all three
to six small digits; a text that is no color is only put in small letters, so that it still
agrees with itself.
-/

/-- The color of whatever has no color of its own. -/
def white : String := "#ffffff"

/-- The code of a color that is called by its name, in letters of either case. -/
def named? (name : String) : Option String :=
  (names.find? fun (known, _) => known == lowered (trimmed name)).map Prod.snd

/-- A hexadecimal digit, written with a small letter if with any. -/
def isSmallHex (c : Char) : Bool :=
  c.isDigit || (decide ('a' ≤ c) && decide (c ≤ 'f'))

/-- A color of three digits with each of them doubled; any other text as it is. -/
def widen (digits : List Char) : List Char :=
  if digits.length = 3 && digits.all isSmallHex then
    digits.flatMap fun digit => [digit, digit]
  else digits

/-- The one form of a color that comparisons use; a blank text is white. -/
def normalize (color : String) : String :=
  if isBlankText color then white
  else
    let text := lowered (trimmed color)
    match text.toList with
    | '#' :: digits => String.ofList ('#' :: widen digits)
    | _ => (named? text).getD text

end SceneEditor.Color
