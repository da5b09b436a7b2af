namespace SceneEditor

/-!
# Levels of the journal

What is noted has a level, and a journal keeps what is at least as grave as its threshold.  The
threshold is given by name, in letters of any case; an unknown name means the level of information.
-/

/-- How grave a note is. -/
inductive LogLevel where
  | debug
  | info
  | warning
  | error
  | critical
  deriving DecidableEq, Repr

namespace LogLevel

/-- How a level is called in the journal. -/
def name : LogLevel → String
  | debug => "DEBUG"
  | info => "INFO"
  | warning => "WARNING"
  | error => "ERROR"
  | critical => "CRITICAL"

/-- How grave a level is. -/
def severity : LogLevel → Nat
  | debug => 10
  | info => 20
  | warning => 30
  | error => 40
  | critical => 50

/-- The names that are understood; two levels have a second name. -/
def known : List (String × LogLevel) :=
  [
    ("DEBUG", debug), ("INFO", info), ("WARNING", warning), ("WARN", warning), ("ERROR", error),
    ("CRITICAL", critical), ("FATAL", critical)
  ]

/-- The capital of a letter; besides the small ASCII letters, two have an ASCII capital. -/
def capital (c : Char) : Char :=
  if c = 'ı' then 'I'
  else if c = 'ſ' then 'S'
  else c.toUpper

/-- A name in capital letters. -/
def capitals (name : String) : String :=
  String.ofList (name.toList.map capital)

/-- The level of a name in letters of either case. -/
def ofName? (name : String) : Option LogLevel :=
  (known.find? fun (knownName, _) => knownName == capitals name).map Prod.snd

/-- The severity from which on notes are kept; the name of no level keeps them all. -/
def threshold (name : String) : Nat :=
  if capitals name = "NOTSET" then 0
  else ((ofName? name).getD info).severity

end LogLevel

/-- A note on what happened. -/
structure Note where
  level : LogLevel
  message : String
  deriving DecidableEq, Repr

/-- A note with its level in front of it. -/
def Note.text (note : Note) : String :=
  note.level.name ++ " " ++ note.message

end SceneEditor
