import SceneEditor.Text.Printable

namespace SceneEditor.Text

/-!
# Texts inside texts

A text inside a message stands in single quotes, or in double quotes when it holds a single quote
and no double one.  The backslash, the quote in use, the line ends and the tab are written with a
backslash, and a character that is not printable by its code point in two, four or eight digits.
-/

/-- The last `width` hexadecimal digits of a number. -/
def hexDigits : (width : Nat) → Nat → List Char
  | 0, _ => []
  | width + 1, value => hexDigits width (value / 16) ++ [Nat.digitChar (value % 16)]

/-- A character as it is written inside quotes of a kind. -/
def quotedChar (quote c : Char) : List Char :=
  if c = '\\' || c = quote then ['\\', c]
  else if c = '\n' then ['\\', 'n']
  else if c = '\r' then ['\\', 'r']
  else if c = '\t' then ['\\', 't']
  else if isPrintable c then [c]
  else if c.toNat < 0x100 then ['\\', 'x'] ++ hexDigits 2 c.toNat
  else if c.toNat < 0x10000 then ['\\', 'u'] ++ hexDigits 4 c.toNat
  else ['\\', 'U'] ++ hexDigits 8 c.toNat

/-- The quotes that a text is put into. -/
def quoteFor (text : List Char) : Char :=
  if text.contains '\'' && !text.contains '"' then '"' else '\''

/-- A text in quotes. -/
def quote (text : List Char) : List Char :=
  let mark := quoteFor text
  mark :: (text.flatMap (quotedChar mark) ++ [mark])

end SceneEditor.Text

namespace SceneEditor

/-- A text in quotes, as it stands in messages. -/
def quoted (text : String) : String :=
  String.ofList (Text.quote text.toList)

/-- The members of a sequence, with a comma and a space between them. -/
def commaList (texts : List String) : String :=
  ", ".intercalate texts

/-- A text with spaces behind it up to the width of its column; a wider text stands as it is. -/
def leftColumn (width : Nat) (text : String) : String :=
  text ++ String.ofList (List.replicate (width - text.length) ' ')

/-- A text with spaces in front of it up to the width of its column. -/
def rightColumn (width : Nat) (text : String) : String :=
  String.ofList (List.replicate (width - text.length) ' ') ++ text

end SceneEditor
