import SceneEditor.Journal.Basic
import SceneEditor.Link.Basic
import SceneEditor.Panel.Basic
import SceneEditor.Settings.Document
import SceneEditor.Terminal.Options

namespace SceneEditor

/-!
# The terminal

A terminal shows a prompt, reads a line and carries it out, until a line ends the session or there
are no more lines.  A question is shown in a prompt of its own, and only a plain yes is one.  What
the session publishes goes to the link.
-/

/-- A session at work. -/
structure Terminal where
  session : Session := {}
  link : Link
  journal : Journal := {}
  /-- The prompts that were shown, in order. -/
  prompts : List String := []
  /-- The lines that were shown, in order. -/
  screen : List String := []
  deriving Repr

namespace Terminal

/-- What stands in front of a line that is typed. -/
def linePrompt : String := "> "

/-- A question with the answers that it may have. -/
def questionPrompt (question : String) : String :=
  question ++ " [y/N] "

/-- The answer agrees, in letters of either case. -/
def isYes (answer : String) : Bool :=
  let word := lowered (trimmed answer)
  word == "y" || word == "yes"

/-- The settings of the connection, in which the command line wins. -/
def serverSettings (options : Options) (settings : Settings) : ServerSettings :=
  match options.serverUrl? with
  | some url => if url.isEmpty then settings.server else { settings.server with url }
  | none => settings.server

/-- The name of the level of the journal, in which the command line wins. -/
def levelName (options : Options) (settings : Settings) : String :=
  match options.logLevel? with
  | some level => if level.isEmpty then settings.journal.level else level
  | none => settings.journal.level

/-- A terminal before its first line. -/
def start (options : Options) (settings : Settings) : Terminal :=
  let link := Link.of (serverSettings options settings) []
  {
    session := {
      catalog := { nextId := link.nextId }
      timeline := { settings := settings.timeline }
    }
    link
    journal := Journal.of (levelName options settings)
      (options.showsOnConsole || settings.journal.showsOnConsole)
  }

/-- Ask for something with a text. -/
def ask (terminal : Terminal) (text : String) : Terminal :=
  { terminal with prompts := terminal.prompts ++ [text] }

/-- Take what the link noted into the journal. -/
def collect (terminal : Terminal) : Terminal :=
  let notes := terminal.link.trace.filterMap fun
    | .noted note => some note
    | _ => none
  { terminal with
    link := { terminal.link with trace := [] }
    journal := notes.foldl Journal.note terminal.journal }

/-- Carry out an effect of the session: publish, show or note a text. -/
def apply (terminal : Terminal) : Effect → Terminal
  | .published text => { terminal with link := (terminal.link.publish text).1 }.collect
  | .asked _ _ => terminal
  | .shown line => { terminal with screen := terminal.screen ++ [line] }
  | .noted note => { terminal with journal := terminal.journal.note note }

/-- What is asked before a line is carried out. -/
def question? (terminal : Terminal) (line : String) : Option String :=
  Panel.lineQuestion? terminal.session line

/-- Carry out a line, given the answer to its question; the result tells whether to go on. -/
def step (terminal : Terminal) (agrees : Bool) (line : String) :
    Terminal × Except NumberError Bool :=
  let outcome := Panel.handle terminal.session agrees line
  (outcome.effects.foldl apply { terminal with session := outcome.session }, outcome.result)

/-- Carry out lines until one ends the session or fails; the answer to a question is a line. -/
def run (terminal : Terminal) : List String → Terminal × Option NumberError
  | [] => (terminal.ask linePrompt, none)
  | line :: rest =>
      let asked := terminal.ask linePrompt
      let question? := asked.question? line
      let ready := (question?.map fun text => asked.ask (questionPrompt text)).getD asked
      let agrees := question?.isSome && (rest.head?.map isYes).getD false
      match ready.step agrees line with
      | (next, .ok true) => run next (rest.drop question?.toList.length)
      | (next, .ok false) => (next, none)
      | (next, .error error) => (next, some error)
termination_by lines => lines.length
decreasing_by simp only [List.length_cons, List.length_drop]; omega

end Terminal

end SceneEditor
