import SceneEditor.Journal.Level
import SceneEditor.Json.Summary

namespace SceneEditor.Note

/-!
# What is noted on which occasion
-/

/-- A command was sent, or handled on the spot; an expanded one is shown with what was typed. -/
def ofCommand (text : String) (sent : Bool) (typed? : Option String) : Note where
  level := .info
  message :=
    let shown := "CMD " ++ (if sent then "NET" else "LOCAL") ++ " | " ++ text
    match typed?.filter (· != text) with
    | some typed => shown ++ " | rewritten from: " ++ typed
    | none => shown

/-- What is noted when the state of the connection changes. -/
def ofConnection (event details : String) : Note where
  level := .info
  message := "CONNECTION " ++ event ++ ": " ++ details

/-- What is noted when a snapshot arrives: a summary of its fields. -/
def ofSnapshot (fields : List (String × Json)) : Note where
  level := .debug
  message := "SNAPSHOT | " ++ Json.summary fields Json.summaryLength

/-- How many dashes make a rule in the journal. -/
def ruleLength : Nat := 60

/-- What is noted at the end of the program. -/
def ofShutdown : List Note :=
  [
    { level := .info, message := "Builder Client Shutdown" },
    { level := .info, message := String.ofList (List.replicate ruleLength '-') }
  ]

end SceneEditor.Note
