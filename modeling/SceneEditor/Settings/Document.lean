import SceneEditor.Json.Numeric
import SceneEditor.Link.Peer
import SceneEditor.Timeline.Settings
import SceneEditor.Yaml.Block

namespace SceneEditor

/-!
# Settings

What a user can set: the connection, the timeline and the journal.  A document of settings is an object with a section for each kind of settings.  What is missing
has its default; an empty document or section counts as missing.  A value stands for the text or
the number that it can be read as.
-/

/-- Settings of the journal; any value may stand for its folder until the folder is opened. -/
structure JournalSettings where
  level : String := "INFO"
  folder : Json := .null
  showsOnConsole : Bool := false
  deriving Repr

/-- All settings. -/
structure Settings where
  server : ServerSettings := {}
  timeline : TimelineSettings := {}
  journal : JournalSettings := {}
  deriving Repr

/-- Why a document gives no settings. -/
inductive SettingsError where
  /-- The document cannot be read at all. -/
  | unreadable
  | noMapping
  | noSection (name : String)
  | value (error : NumberError)
  | timeline (error : TimelineSettingsError)
  deriving DecidableEq, Repr

/-- The wording of an error, given the name of the document. -/
def SettingsError.message (place : String) : SettingsError → String
  | unreadable => "Invalid YAML in " ++ place
  | noMapping => "Config root in " ++ place ++ " must be a mapping"
  | noSection name => s!"Config section '{name}' must be a mapping"
  | value error => "Invalid value in " ++ place ++ ": " ++ error.message
  | timeline error => error.message

/-- How reading settings fails: with an error that is told to the user, or with an overflow. -/
inductive SettingsFailure where
  | refused (error : SettingsError)
  | overflow (error : NumberError)
  deriving DecidableEq, Repr

namespace Settings

/-- The fields of a section. -/
abbrev Section := List (String × Json)

/-- The failure that a number which cannot be read means. -/
def failure (error : NumberError) : SettingsFailure :=
  if error.isOverflow then .overflow error else .refused (.value error)

/-- The fields of a value that is empty or an object. -/
def section? (value : Json) : Option Section :=
  match value with
  | .object fields => some fields
  | other => if other.isTruthy then none else some []

/-- The section of a name, which is empty if it is missing. -/
def sectionOf (root : Section) (name : String) : Except SettingsFailure Section :=
  match section? ((Json.field? name root).getD .null) with
  | some fields => .ok fields
  | none => .error (.refused (.noSection name))

/-- The text of a field, or a default if the field is missing. -/
def textOr (fields : Section) (key default : String) : Except SettingsFailure String :=
  match Json.field? key fields with
  | none => .ok default
  | some value => value.toText.mapError failure

/-- The real number of a field, or a default if the field is missing. -/
def realOr (fields : Section) (key : String) (default : Num) : Except SettingsFailure Num :=
  match Json.field? key fields with
  | none => .ok default
  | some value => (value.toReal.map Num.real).mapError failure

/-- The integer of a field, or a default if the field is missing. -/
def integerOr (fields : Section) (key : String) (default : Int) : Except SettingsFailure Int :=
  match Json.field? key fields with
  | none => .ok default
  | some value => value.toInteger.mapError failure

/-- The settings of the connection in a section. -/
def serverOf (fields : Section) : Except SettingsFailure ServerSettings := do
  let defaults : ServerSettings := {}
  return {
    url := ← textOr fields "url" defaults.url
    commandDestination := ← textOr fields "command_destination" defaults.commandDestination
    worldTopic := ← textOr fields "world_topic" defaults.worldTopic
    reconnectDelay := ← realOr fields "reconnect_delay" defaults.reconnectDelay
    maxReconnectAttempts :=
      ← integerOr fields "max_reconnect_attempts" defaults.maxReconnectAttempts
    heartbeatInterval := ← realOr fields "heartbeat_interval" defaults.heartbeatInterval
    connectTimeout := ← realOr fields "connect_timeout" defaults.connectTimeout
  }

/-- The settings of the timeline, which are checked. -/
def timelineOf (fields : Section) : Except SettingsFailure TimelineSettings := do
  let defaults : TimelineSettings := {}
  let settings : TimelineSettings := {
    maxTime := ← realOr fields "max_time" defaults.maxTime
    gutter := ← realOr fields "label_gutter_px" defaults.gutter
    shortest := ← realOr fields "min_clip_duration" defaults.shortest
  }
  settings.check.mapError fun error => .refused (.timeline error)

/-- The settings of the journal in a section. -/
def journalOf (fields : Section) : Except SettingsFailure JournalSettings := do
  let defaults : JournalSettings := {}
  return {
    level := ← textOr fields "level" defaults.level
    folder := (Json.field? "dir" fields).getD defaults.folder
    showsOnConsole :=
      ((Json.field? "console" fields).map Json.isTruthy).getD defaults.showsOnConsole
  }

/-- The settings of a document; all sections are looked at before any value is. -/
def ofDocument (document : Json) : Except SettingsFailure Settings :=
  match section? document with
  | none => .error (.refused .noMapping)
  | some root => do
      let server ← sectionOf root "server"
      let timeline ← sectionOf root "timeline"
      let journal ← sectionOf root "logging"
      return {
        server := ← serverOf server
        timeline := ← timelineOf timeline
        journal := ← journalOf journal
      }

/-- The settings that the text of a document gives. -/
def ofText (text : String) : Except SettingsFailure Settings :=
  match Yaml.read? text with
  | some document => ofDocument document
  | none => .error (.refused .unreadable)

end Settings

end SceneEditor
