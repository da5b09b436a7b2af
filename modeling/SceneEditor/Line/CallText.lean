import SceneEditor.Text.Characters

namespace SceneEditor.CallText

/-!
# Calls in typed text

The pieces that typed calls are recognized by: names in any letter case, blanks, and what stands
between commas and brackets.
-/

/--
A character stands for a small letter, in either case.  The letter i may also have a dot on its
capital or none on its small form.
-/
def standsFor (letter c : Char) : Bool :=
  c.toLower = letter || (letter = 'i' && (c = 'İ' || c = 'ı'))

/-- A name that is given in small letters, as the text writes it, and what follows it. -/
def takeName? : List Char → List Char → Option (List Char × List Char)
  | [], text => some ([], text)
  | _ :: _, [] => none
  | letter :: letters, c :: rest =>
      if standsFor letter c then
        (takeName? letters rest).map fun (name, after) => (c :: name, after)
      else none

/-- What stands behind a mark, if blanks at most stand in front of it. -/
def afterMark? (mark : Char) (text : List Char) : Option (List Char) :=
  match text.dropWhile Text.isBlank with
  | [] => none
  | c :: rest => if c = mark then some rest else none

/-- What stands in front of the first character of a kind, and what follows it. -/
def cutBefore? (mark : Char) : List Char → Option (List Char × List Char)
  | [] => none
  | c :: rest =>
      if c = mark then some ([], rest)
      else (cutBefore? mark rest).map fun (before, after) => (c :: before, after)

end SceneEditor.CallText
