import SceneEditor.Text.Cut
import SceneEditor.Text.Characters

namespace SceneEditor

/-!
# Options of the command line

The program takes options and nothing else.  The name of an option may be cut short as long as it
is the beginning of only one name, and a value stands behind the name or, after an equals sign, in
the same argument.  Of two values for one option the later counts.
-/

/-- What was asked for on the command line. -/
structure Options where
  settingsPath? : Option String := none
  serverUrl? : Option String := none
  logLevel? : Option String := none
  showsOnConsole : Bool := false
  deriving DecidableEq, Repr

/-- Why the command line starts no session. -/
inductive OptionsExit where
  | help
  | misuse
  deriving DecidableEq, Repr

/-- The code with which the program ends. -/
def OptionsExit.code : OptionsExit → Nat
  | help => 0
  | misuse => 2

/-- An option. -/
inductive OptionName where
  | settings
  | serverUrl
  | logLevel
  | console
  | help
  deriving DecidableEq, Repr

namespace OptionName

/-- All options that there are. -/
def all : List OptionName :=
  [help, settings, serverUrl, logLevel, console]

/-- How an option is written. -/
def text : OptionName → String
  | settings => "--config"
  | serverUrl => "--server-url"
  | logLevel => "--log-level"
  | console => "--console-log"
  | help => "--help"

/-- A value follows the option. -/
def takesValue : OptionName → Bool
  | settings | serverUrl | logLevel => true
  | console | help => false

/-- The options whose text begins in some way. -/
def beginning (start : List Char) : List OptionName :=
  all.filter fun name => (Text.after? start name.text.toList).isSome

end OptionName

/-- What one argument is, as far as it can be told by itself. -/
inductive Argument where
  | option (name : OptionName) (value? : Option String)
  /-- The short form of the option for help, and what follows it in the argument. -/
  | shortHelp (tail : List Char)
  | plain (text : String)
  /-- The mark behind which nothing is an option. -/
  | endMark
  | unknown
  deriving DecidableEq, Repr

namespace Argument

/-- A decimal digit of any script. -/
def isDigit (c : Char) : Bool :=
  (Text.digitValue? c).isSome

/-- The text is a number behind a minus; a line end may follow it. -/
def isNegativeNumber (text : List Char) : Bool :=
  match text with
  | '-' :: rest =>
      let body := if rest.getLast? = some '\n' then rest.dropLast else rest
      match body.dropWhile isDigit with
      | [] => !body.isEmpty
      | '.' :: fraction => !fraction.isEmpty && fraction.all isDigit
      | _ => false
  | _ => false

/-- A text that begins like an option but is none. -/
def stray (text : List Char) : Argument :=
  if isNegativeNumber text || text.contains ' ' then plain (String.ofList text) else unknown

/-- What an argument is; the beginning of several names is refused. -/
def of (text : List Char) : Except OptionsExit Argument :=
  match text with
  | '-' :: '-' :: _ =>
      let (start, value?) := match Text.cutAt? ['='] text with
        | some (start, value) => (start, some (String.ofList value))
        | none => (text, none)
      match OptionName.beginning start with
      | [name] => .ok (option name value?)
      | [] => .ok (stray text)
      | _ => .error .misuse
  | '-' :: 'h' :: tail => .ok (shortHelp tail)
  | '-' :: _ :: _ => .ok (stray text)
  | _ => .ok (plain (String.ofList text))

/-- The arguments as options and values; behind two dashes nothing is an option. -/
def ofAll : List String → Except OptionsExit (List Argument)
  | [] => .ok []
  | "--" :: rest => .ok (endMark :: rest.map plain)
  | text :: rest => do
      let first ← of text.toList
      return first :: (← ofAll rest)

/-- What follows the short form of help may repeat it, but not be written as its value. -/
def isHelpTail : List Char → Bool
  | [] => true
  | 'h' :: rest => isHelpTail rest
  | c :: _ => c != '=' && c != '-'

end Argument

namespace Options

/-- The options with a value for one of them. -/
def set (options : Options) (name : OptionName) (value : String) : Options :=
  match name with
  | .settings => { options with settingsPath? := some value }
  | .serverUrl => { options with serverUrl? := some value }
  | .logLevel => { options with logLevel? := some value }
  | .console | .help => options

/-- Read arguments in order; help wins over what is wrong behind it. -/
def ofArguments (options : Options) (hasStray : Bool) : List Argument → Except OptionsExit Options
  | [] => if hasStray then .error .misuse else .ok options
  | .option .help none :: _ => .error .help
  | .option .console none :: rest =>
      ofArguments { options with showsOnConsole := true } hasStray rest
  | .option name (some value) :: rest =>
      if name.takesValue then ofArguments (options.set name value) hasStray rest
      else .error .misuse
  | .option name none :: .plain text :: rest => ofArguments (options.set name text) hasStray rest
  | .option _ none :: _ => .error .misuse
  | .shortHelp tail :: _ => .error (if Argument.isHelpTail tail then .help else .misuse)
  | .plain _ :: rest => ofArguments options true rest
  | .endMark :: rest => ofArguments options true rest
  | .unknown :: rest => ofArguments options true rest

/-- The options that arguments give, or how the program ends instead. -/
def read (arguments : List String) : Except OptionsExit Options := do
  ofArguments {} false (← Argument.ofAll arguments)

/-- How the program is used. -/
def usage : String :=
  "usage: builder_client [-h] [--config FILE] [--server-url URL] [--log-level LEVEL] "
    ++ "[--console-log]"

end Options

end SceneEditor
