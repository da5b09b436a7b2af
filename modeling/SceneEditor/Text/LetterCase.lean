import SceneEditor.Text.LetterTable

namespace SceneEditor.Text

/-!
# Small letters

The small form of a text.  One letter for one letter, with two exceptions: the capital I with a dot
becomes an i with a combining dot, and a capital sigma at the end of a word becomes the
final small sigma.
-/

/-- The small form of a letter when it is one letter that does not depend on its place. -/
def smallLetter (c : Char) : Char :=
  if c.toNat < 0x80 then c.toLower
  else
    let code := c.toNat
    match capitalRuns.find? fun run =>
        decide (run.first ≤ code) && decide (code ≤ run.last)
          && (code - run.first) % run.step == 0 with
    | some run => Char.ofNat ((code : Int) + run.distance).toNat
    | none => c

/-- The first character that is not transparent is a letter with a case. -/
def meetsCased (text : List Char) : Bool :=
  match text.dropWhile transparentRanges.contains with
  | [] => false
  | c :: _ => casedRanges.contains c

/-- The small form of a character between those before it, in reverse, and those after it. -/
def smallForm (before : List Char) (c : Char) (after : List Char) : List Char :=
  if c = 'Σ' then
    if meetsCased before && !meetsCased after then ['ς'] else ['σ']
  else if c = 'İ' then
    ['i', Char.ofNat 0x307]
  else
    [smallLetter c]

/-- The small forms of a text, given the characters before it in reverse. -/
def lowerAfter (before : List Char) : List Char → List Char
  | [] => []
  | c :: after => smallForm before c after ++ lowerAfter (c :: before) after

/-- A text in small letters. -/
def lower (text : List Char) : List Char :=
  lowerAfter [] text

end SceneEditor.Text

namespace SceneEditor

/-- A text in small letters. -/
def lowered (text : String) : String :=
  String.ofList (Text.lower text.toList)

end SceneEditor
