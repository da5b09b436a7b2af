import SceneEditor.Journal.Folder
import SceneEditor.Journal.Occasion
import SceneEditor.Settings.Document
import SceneEditor.Terminal.Basic

/-!
# The program

Reads the command line and the settings, and then lines until they end.  No socket is opened here,
so what is published is dropped with a note in the journal.
-/

namespace SceneEditor.Program

/-- The variable of the environment that names the document of the settings. -/
def settingsVariable : String := "BUILDER_CLIENT_CONFIG"

/-- The variable of the environment that names the folder of the journal. -/
def folderVariable : String := "BUILDER_CLIENT_LOG_DIR"

/-- How the file of the journal is called. -/
def journalName : String := "builder_client.log"

/-- A text that is there and not empty. -/
def given? (text? : Option String) : Option String :=
  text?.filter fun text => !text.isEmpty

/-- The content of a file, if it can be read. -/
def content? (path : String) : IO (Option String) := do
  try
    return some (← IO.FS.readFile path)
  catch _ =>
    return none

/-- Read the settings; without a document they are the default ones. -/
def readSettings (place? : Option String) : IO (Except SettingsFailure Settings) := do
  match place? with
  | none => return .ok {}
  | some place =>
      match ← content? place with
      | none => return .ok {}
      | some text => return Settings.ofText text

/-- Ask for a line, which is none at the end of the input. -/
def readLine (prompt : String) : IO (Option String) := do
  let output ← IO.getStdout
  output.putStr prompt
  output.flush
  let line ← (← IO.getStdin).getLine
  if line.isEmpty then return none
  else return some (String.ofList (line.toList.filter (· != '\n')))

/-- Read and carry out lines until one ends the session or fails. -/
partial def loop (terminal : Terminal) : IO Terminal := do
  match ← readLine Terminal.linePrompt with
  | none => return terminal
  | some line =>
      let agrees ← match terminal.question? line with
        | none => pure false
        | some question =>
            let answer? ← readLine (Terminal.questionPrompt question)
            pure ((answer?.map Terminal.isYes).getD false)
      let (next, result) := { terminal with screen := [] }.step agrees line
      for shown in next.screen do
        IO.println shown
      match result with
      | .ok true => loop next
      | .ok false => return next
      | .error error =>
          IO.eprintln error.message
          return next

/-- Write the journal into its folder, if there is one, and on the console if asked for. -/
def keepJournal (journal : Journal) (folder? : Option String) : IO Unit := do
  IO.eprint journal.consoleText
  match folder? with
  | none => return
  | some folder =>
      IO.FS.createDirAll folder
      let file ← IO.FS.Handle.mk (folder ++ "/" ++ journalName) .append
      for line in journal.lines do
        file.putStrLn line

/-- Read the settings, run the terminal until it ends, and write the journal. -/
def start (options : Options) : IO UInt32 := do
  let place? := given? options.settingsPath? <|> given? (← IO.getEnv settingsVariable)
  match ← readSettings place? with
  | .error (.refused error) =>
      IO.eprintln ("Config error: " ++ error.message (place?.getD ""))
      return 2
  | .error (.overflow error) =>
      IO.eprintln error.message
      return 1
  | .ok settings =>
      let terminal ← loop (Terminal.start options settings)
      let journal := Note.ofShutdown.foldl Journal.note terminal.journal
      let folder? := match settings.journal.folder with
        | .string folder => some folder
        | _ => none
      keepJournal journal (Folder.choose? folder? (← IO.getEnv folderVariable))
      return 0

end SceneEditor.Program

/-- Read the arguments and start, or tell how the program is used. -/
def main (arguments : List String) : IO UInt32 := do
  match SceneEditor.Options.read arguments with
  | .ok options => SceneEditor.Program.start options
  | .error stop =>
      if stop = .help then IO.println SceneEditor.Options.usage
      else IO.eprintln SceneEditor.Options.usage
      return stop.code.toUInt32
