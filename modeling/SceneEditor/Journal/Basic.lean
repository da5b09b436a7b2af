import SceneEditor.Journal.Level
import SceneEditor.Text.Quoted
import SceneEditor.Text.Cut

namespace SceneEditor

/-!
# The journal

A journal keeps the entries of this program's own sources that are at least as grave as its
threshold.  What it keeps is written to a file and, if asked for, to the console as well.
-/

/-- A note, and the part of the program that it comes from. -/
structure Entry where
  source : String
  note : Note
  deriving DecidableEq, Repr

namespace Entry

/-- The source that all other sources of this program are parts of. -/
def root : String := "builder_client"

/-- The entry comes from this program. -/
def isOwn (entry : Entry) : Bool :=
  entry.source == root || (root ++ ".").toList.isPrefixOf entry.source.toList

/-- The entry as it stands in the file, behind the time. -/
def fileText (entry : Entry) : String :=
  leftColumn 8 entry.note.level.name ++ " | " ++ entry.source ++ " | " ++ entry.note.message

/-- An entry as it is shown on the console. -/
def consoleText (entry : Entry) : String :=
  entry.note.level.name ++ " - " ++ entry.note.message

end Entry

/-- What is kept, and where it is shown. -/
structure Journal where
  threshold : Nat := LogLevel.info.severity
  showsOnConsole : Bool := false
  entries : List Entry := []
  deriving DecidableEq, Repr

namespace Journal

/-- A journal whose threshold has a name. -/
def of (levelName : String) (showsOnConsole : Bool) : Journal where
  threshold := LogLevel.threshold levelName
  showsOnConsole := showsOnConsole

/-- An entry is kept if it comes from the program itself and is grave enough. -/
def keeps (journal : Journal) (entry : Entry) : Bool :=
  entry.isOwn && decide (journal.threshold ≤ entry.note.level.severity)

/-- Add an entry, if it is kept. -/
def add (journal : Journal) (entry : Entry) : Journal :=
  if journal.keeps entry then { journal with entries := journal.entries ++ [entry] }
  else journal

/-- Add a note of the program as a whole, if it is kept. -/
def note (journal : Journal) (note : Note) : Journal :=
  journal.add { source := Entry.root, note }

/-- The lines of the file, without the times; a message of several lines is not joined. -/
def lines (journal : Journal) : List String :=
  journal.entries.flatMap fun entry =>
    (Text.pieces '\n' entry.fileText.toList).map String.ofList

/-- What the console shows of a journal, an entry on each line, if it is shown there. -/
def consoleText (journal : Journal) : String :=
  if journal.showsOnConsole then
    String.join (journal.entries.map fun entry => entry.consoleText ++ "\n")
  else ""

end Journal

end SceneEditor
