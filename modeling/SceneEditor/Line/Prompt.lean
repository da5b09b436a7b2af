import SceneEditor.Line.Dispatcher

namespace SceneEditor

/-!
# The input line

The line that is being typed, with the suggestion that stands behind it.  Browsing the history
replaces the line, and submitting it empties it.
-/

/-- The line that is being typed, and what it may become. -/
structure Prompt where
  text : String := ""
  suggestion : String := ""
  deriving DecidableEq, Repr

namespace Prompt

/-- The prompt when a text has been typed, with the suggestion for it. -/
def type (text : String) : Prompt where
  text := text
  suggestion := SceneEditor.suggestion text

/-- Take the suggestion as the line, if there is one. -/
def accept (prompt : Prompt) : Prompt × Bool :=
  if prompt.suggestion.isEmpty then (prompt, false)
  else ({ text := prompt.suggestion }, true)

/-- Show a line of the history, if browsing found one. -/
def adopt (prompt : Prompt) : Option String → Prompt
  | some line => { text := line }
  | none => prompt

end Prompt

end SceneEditor
