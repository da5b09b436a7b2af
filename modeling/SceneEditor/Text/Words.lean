namespace SceneEditor.Text

/-!
# Words

A line is cut into words at its separators.  Quotes of either kind keep separators in a word, and a
backslash keeps the character behind it.  Within single quotes nothing has a meaning of its own but
the closing quote; within double quotes a backslash keeps only a double quote or another backslash.
-/

/-- Why a line has no words. -/
inductive WordsError where
  | unclosedQuote
  | nothingKept
  deriving DecidableEq, Repr

/-- The wording of an error. -/
def WordsError.message : WordsError → String
  | unclosedQuote => "No closing quotation"
  | nothingKept => "No escaped character"

/-- Where a character stands. -/
inductive WordPlace where
  | between
  | inside
  | inQuotes (mark : Char)
  deriving DecidableEq, Repr

/-- A character that ends a word. -/
def isSeparator (c : Char) : Bool :=
  c = ' ' || c = '\t' || c = '\r' || c = '\n'

/-- Put a character in front of the first word. -/
def extend (c : Char) : List (List Char) → List (List Char)
  | [] => [[c]]
  | word :: words => (c :: word) :: words

/--
The words of a text that begins at a place.  Inside a word or in quotes, the first of them is what
is left of that word.
-/
def wordsAt : WordPlace → List Char → Except WordsError (List (List Char))
  | .between, [] => .ok []
  | .inside, [] => .ok [[]]
  | .inQuotes _, [] => .error .unclosedQuote
  | .inQuotes '"', '\\' :: c :: rest =>
      if c = '"' || c = '\\' then (wordsAt (.inQuotes '"') rest).map (extend c)
      else (wordsAt (.inQuotes '"') rest).map fun words => extend '\\' (extend c words)
  | .inQuotes '"', ['\\'] => .error .nothingKept
  | .inQuotes mark, c :: rest =>
      if c = mark then wordsAt .inside rest
      else (wordsAt (.inQuotes mark) rest).map (extend c)
  | _, '\\' :: c :: rest => (wordsAt .inside rest).map (extend c)
  | _, ['\\'] => .error .nothingKept
  | place, c :: rest =>
      if isSeparator c then
        match place with
        | .between => wordsAt .between rest
        | _ => (wordsAt .between rest).map ([] :: ·)
      else if c = '"' || c = '\'' then wordsAt (.inQuotes c) rest
      else (wordsAt .inside rest).map (extend c)

/-- The words of a line. -/
def words (line : List Char) : Except WordsError (List (List Char)) :=
  wordsAt .between line

end SceneEditor.Text
