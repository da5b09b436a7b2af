namespace SceneEditor

/-!
# The history of typed lines

Lines are only added, until the history is cleared.  A cursor browses them: it steps towards older
lines and stays at the oldest, and past the newest it leaves the history.
-/

/-- The lines in the order in which they came, and the place of the cursor while browsing. -/
structure History where
  entries : List String := []
  cursor? : Option Nat := none
  deriving DecidableEq, Repr

namespace History

/-- Add a line, which ends browsing. -/
def append (history : History) (line : String) : History where
  entries := history.entries ++ [line]
  cursor? := none

/-- Forget all entries, and where one of them was looked at. -/
def clear (_ : History) : History := {}

/-- The place that is one entry older than the one that is looked at. -/
def olderPlace (history : History) : Nat :=
  match history.cursor? with
  | none => history.entries.length - 1
  | some place => place - 1

/-- Step to the next older line; there is none in an empty history. -/
def previous (history : History) : History × Option String :=
  match history.entries[history.olderPlace]? with
  | none => (history, none)
  | some line => ({ history with cursor? := some history.olderPlace }, some line)

/-- Step to the next newer line, or past the newest to an empty input. -/
def next (history : History) : History × Option String :=
  match history.cursor? with
  | none => (history, none)
  | some place =>
      match history.entries[place + 1]? with
      | none => ({ history with cursor? := none }, some "")
      | some line => ({ history with cursor? := some (place + 1) }, some line)

end History

end SceneEditor
