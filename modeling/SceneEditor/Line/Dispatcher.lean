import SceneEditor.Command.Help
import SceneEditor.Line.CollectionCall
import SceneEditor.Line.ConnectCall
import SceneEditor.Line.History
import SceneEditor.Line.Label

namespace SceneEditor

/-!
# Dispatching typed lines

A line is expanded and noted in the history.  Three lines are orders to this program itself, which
set the labels or clear the history; every other line is published as it was expanded.
-/

/-- A line that is an order to this program. -/
inductive LocalOrder where
  | showIndexes
  | hideIndexes
  | clearHistory
  deriving DecidableEq, Repr

namespace LocalOrder

/-- The name of an order, in small letters. -/
def name : LocalOrder → String
  | showIndexes => "showindexes"
  | hideIndexes => "hideindexes"
  | clearHistory => "clearhistory"

/-- The order that a text in small letters is, if it is one. -/
def ofText? (text : String) : Option LocalOrder :=
  if (Text.after? showIndexes.name.toList text.toList).isSome then some showIndexes
  else if text = hideIndexes.name then some hideIndexes
  else if text = clearHistory.name then some clearHistory
  else none

end LocalOrder

/-- The first digit that stands alone in parentheses. -/
def digitInParentheses? : List Char → Option Nat
  | [] => none
  | '(' :: c :: ')' :: rest =>
      match Text.digitValue? c with
      | some digit => some digit
      | none => digitInParentheses? (c :: ')' :: rest)
  | _ :: rest => digitInParentheses? rest

/-- What became of a line. -/
structure Dispatched where
  /-- The line after it was expanded. -/
  text : String
  /-- The line as it was typed, without the blanks around it. -/
  typed : String
  order? : Option LocalOrder
  deriving DecidableEq, Repr

/-- The line was a command for the server, and no order to the dispatcher. -/
def Dispatched.sent (dispatched : Dispatched) : Bool :=
  dispatched.order?.isNone

/-- The texts that are published for a line: one, or none. -/
def Dispatched.published (dispatched : Dispatched) : List String :=
  if dispatched.sent then [dispatched.text] else []

/-- The history of lines, and what the labels show. -/
structure Dispatcher where
  history : History := {}
  labelMode : LabelMode := .ids
  deriving DecidableEq, Repr

namespace Dispatcher

/-- A line with its material resolved and its ranges written out. -/
def expand (catalog : Catalog) (line : String) : Except NumberError String :=
  CollectionCall.expandRanges (ConnectCall.resolveMaterial catalog (trimmed line))

/-- Carry out an order that was given in a text in small letters. -/
def carryOut (dispatcher : Dispatcher) (text : String) : LocalOrder → Dispatcher
  | .showIndexes =>
      if digitInParentheses? text.toList = some 1 then
        { dispatcher with labelMode := .coordinates }
      else
        { dispatcher with labelMode := .ids }
  | .hideIndexes => { dispatcher with labelMode := .hidden }
  | .clearHistory => { dispatcher with history := dispatcher.history.clear }

/-- Note a line that was expanded, and carry it out if it is an order to this program. -/
def note (dispatcher : Dispatcher) (typed text : String) : Dispatcher × Dispatched :=
  let noted := { dispatcher with history := dispatcher.history.append text }
  let order := lowered (trimmed text)
  match LocalOrder.ofText? order with
  | some known => (noted.carryOut order known, { text, typed, order? := some known })
  | none => (noted, { text, typed, order? := none })

/-- Dispatch a line; a blank one does nothing, and one that cannot be expanded is not noted. -/
def dispatch (dispatcher : Dispatcher) (catalog : Catalog) (line : String) :
    Except NumberError (Dispatcher × Option Dispatched) :=
  if isBlankText line then .ok (dispatcher, none)
  else do
    let typed := trimmed line
    let (noted, dispatched) := dispatcher.note typed (← expand catalog typed)
    return (noted, some dispatched)

end Dispatcher

end SceneEditor
