import SceneEditor.Session.Basic

namespace SceneEditor.Session

/-!
# Typed lines

A line is typed, browsed to or taken from the suggestion, and then dispatched.
-/

/-- Carry out a line: rewrite it, keep it in the history and publish it. -/
def dispatch (session : Session) (line : String) :
    Outcome (Except NumberError (Option Dispatched)) :=
  match session.dispatcher.dispatch session.catalog line with
  | .error error => session.only (.error error)
  | .ok (dispatcher, dispatched?) =>
      {
        result := .ok dispatched?
        session := { session with dispatcher }
        effects := ((dispatched?.map Dispatched.published).getD []).map .published
      }

/-- A line as it would be published. -/
def expand (session : Session) (line : String) : Except NumberError String :=
  Dispatcher.expand session.catalog line

/-- Take a text that was typed into the prompt. -/
def type (session : Session) (text : String) : Session :=
  { session with prompt := Prompt.type text }

/-- Take the next older line of the history into the prompt. -/
def browseUp (session : Session) : Session :=
  let (history, line?) := session.dispatcher.history.previous
  { session with
    dispatcher := { session.dispatcher with history }
    prompt := session.prompt.adopt line? }

/-- Take the next newer line of the history into the prompt, or clear it behind the newest one. -/
def browseDown (session : Session) : Session :=
  let (history, line?) := session.dispatcher.history.next
  { session with
    dispatcher := { session.dispatcher with history }
    prompt := session.prompt.adopt line? }

/-- Take the suggestion into the prompt, if there is one. -/
def accept (session : Session) : Outcome Bool :=
  let (prompt, accepted) := session.prompt.accept
  { result := accepted, session := { session with prompt } }

/-- Dispatch the input line and empty it; a blank line stays, and so does one that failed. -/
def submit (session : Session) : Outcome (Except NumberError (Option Dispatched)) :=
  let outcome := session.dispatch session.prompt.text
  match outcome.result with
  | .ok (some _) => { outcome with session := { outcome.session with prompt := {} } }
  | _ => outcome

end SceneEditor.Session
