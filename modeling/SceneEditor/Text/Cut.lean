namespace SceneEditor.Text

/-!
# Cutting texts

A text is cut at every separator, or once at the first place where a mark stands.
-/

/-- The pieces between the separators; a text without one is its own only piece. -/
def pieces (separator : Char) : List Char → List (List Char)
  | [] => [[]]
  | c :: rest =>
      if c = separator then [] :: pieces separator rest
      else
        match pieces separator rest with
        | [] => [[c]]
        | first :: others => (c :: first) :: others

/-- The rest of a text that begins with the mark. -/
def after? (mark : List Char) (text : List Char) : Option (List Char) :=
  match mark, text with
  | [], text => some text
  | _ :: _, [] => none
  | m :: marks, c :: rest => if m = c then after? marks rest else none

/-- The text before and after the first place where the mark stands. -/
def cutAt? (mark : List Char) : List Char → Option (List Char × List Char)
  | [] => (after? mark []).map fun rest => ([], rest)
  | c :: text =>
      match after? mark (c :: text) with
      | some rest => some ([], rest)
      | none => (cutAt? mark text).map fun (before, rest) => (c :: before, rest)

/-- The mark stands somewhere in the text. -/
def occurs (mark text : List Char) : Bool :=
  (cutAt? mark text).isSome

/-- Write one mark in the place of another, from left to right. -/
def replaceAll (mark replacement : List Char) (text : List Char) : List Char :=
  go text.length text
where
  go : Nat → List Char → List Char
    | 0, text => text
    | fuel + 1, text =>
        match cutAt? mark text with
        | none => text
        | some (before, rest) => before ++ replacement ++ go fuel rest

end SceneEditor.Text
